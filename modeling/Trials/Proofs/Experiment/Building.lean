import Trials.Proofs.Except
import Trials.Proofs.Order.Siblings
import Trials.Proofs.Script.Rules
import Trials.Proofs.Experiment.Run
import Trials.Experiment.Build

/-!
# Experiments that have been built

An experiment that has been built from a script is sound and stands before its beginning
(`Experiment.Ready`).  Building puts blocks into the table one after the other and, but for the one
whose children are being built, never touches them again.  `Grown` says what has been put into a
table: new blocks whose passes have not begun, each held by another new block that has been put in
before it, apart from those whose numbers are handed back.
-/

namespace Trials

namespace BlockTable

variable {t t' t'' : BlockTable} {parent : Option Nat} {numbers : List Nat}

/-- The block with a number may run, has not been run, and its children come after it. -/
structure Begun (t : BlockTable) (i : Nat) (b : Block) : Prop where
  /-- The block may run at least once. -/
  cutoff_pos : 0 < b.info.policy.cutoff.toNat
  /-- A block is held once. -/
  nodup_children : b.content.children.Nodup
  /-- The first pass, over all children, has not begun. -/
  start : ∃ order, b.pass = .start order ∧ order.Perm (List.range b.content.count)
  /-- The blocks inside have larger numbers and know this one. -/
  inside : ∀ {c : Nat}, c ∈ b.content.children → i < c ∧ t.Inside c i

theorem Begun.congr {i : Nat} {b : Block} (h : t.Begun i b)
    (hsame : ∀ {c : Nat}, i < c → t.Inside c i → t'[c]? = t[c]?) : t'.Begun i b where
  cutoff_pos := h.cutoff_pos
  nodup_children := h.nodup_children
  start := h.start
  inside := by
    intro c hc
    obtain ⟨hlt, hinside⟩ := h.inside hc
    refine ⟨hlt, ?_⟩
    obtain ⟨d, hd, hp⟩ := hinside
    exact ⟨d, (hsame hlt ⟨d, hd, hp⟩).trans hd, hp⟩

/-- New blocks have been put into a table, among them some with a given block around them. -/
structure Grown (parent : Option Nat) (t t' : BlockTable) (numbers : List Nat) : Prop where
  /-- There are no fewer blocks. -/
  size_le : t.size ≤ t'.size
  /-- The blocks that were there are as they were. -/
  same : ∀ {i : Nat}, i < t.size → t'[i]? = t[i]?
  /-- The given block is around those that are handed back. -/
  outer : ∀ {i : Nat}, i ∈ numbers → t.size ≤ i ∧ ∃ b, t'[i]? = some b ∧ b.parent = parent
  /-- Each of them is handed back once. -/
  nodup : numbers.Nodup
  /-- The new blocks have not been run. -/
  begun : ∀ {i : Nat} {b : Block}, t.size ≤ i → t'[i]? = some b → t'.Begun i b
  /-- A new block is handed back, or is held by a new block with a smaller number. -/
  held : ∀ {i : Nat}, t.size ≤ i → i < t'.size →
    i ∈ numbers ∨ ∃ p b, t.size ≤ p ∧ p < i ∧ t'[p]? = some b ∧ i ∈ b.content.children

theorem Grown.lt_size (h : Grown parent t t' numbers) {i : Nat} (hi : i ∈ numbers) :
    i < t'.size := by
  obtain ⟨-, b, hb, -⟩ := h.outer hi
  exact lt_size_of_getElem? hb

theorem Grown.nil (parent : Option Nat) (t : BlockTable) : Grown parent t t [] where
  size_le := Nat.le_refl _
  same := fun _ => rfl
  outer := nofun
  nodup := List.nodup_nil
  begun := fun hi hb => absurd (lt_size_of_getElem? hb) (Nat.not_lt_of_le hi)
  held := fun hi hlt => absurd hlt (Nat.not_lt_of_le hi)

/-- What has been put in first is not touched by what is put in afterwards. -/
theorem Grown.append {rest : List Nat} (h : Grown parent t t' numbers)
    (h' : Grown parent t' t'' rest) : Grown parent t t'' (numbers ++ rest) where
  size_le := Nat.le_trans h.size_le h'.size_le
  same := fun hi => (h'.same (Nat.lt_of_lt_of_le hi h.size_le)).trans (h.same hi)
  outer := by
    intro i hi
    rcases List.mem_append.1 hi with hi | hi
    · obtain ⟨hle, b, hb, hp⟩ := h.outer hi
      exact ⟨hle, b, (h'.same (h.lt_size hi)).trans hb, hp⟩
    · obtain ⟨hle, hb⟩ := h'.outer hi
      exact ⟨Nat.le_trans h.size_le hle, hb⟩
  nodup := by
    refine List.nodup_append.2 ⟨h.nodup, h'.nodup, ?_⟩
    rintro i hi _ hi' rfl
    exact Nat.not_lt_of_le (h'.outer hi').1 (h.lt_size hi)
  begun := by
    intro i b hi hb
    by_cases hlt : i < t'.size
    · rw [h'.same hlt] at hb
      refine (h.begun hi hb).congr fun hc hinside => ?_
      obtain ⟨d, hd, -⟩ := hinside
      exact h'.same (lt_size_of_getElem? hd)
    · exact h'.begun (Nat.le_of_not_lt hlt) hb
  held := by
    intro i hi hlt
    by_cases hlt' : i < t'.size
    · rcases h.held hi hlt' with hi | ⟨p, b, hle, hp, hb, hc⟩
      · exact .inl (List.mem_append_left _ hi)
      · exact .inr ⟨p, b, hle, hp, (h'.same (lt_size_of_getElem? hb)).trans hb, hc⟩
    · rcases h'.held (Nat.le_of_not_lt hlt') hlt with hi | ⟨p, b, hle, hp, hb, hc⟩
      · exact .inl (List.mem_append_right _ hi)
      · exact .inr ⟨p, b, Nat.le_trans h.size_le hle, hp, hb, hc⟩

/-- A block that holds no other blocks is put in. -/
theorem Grown.push {b : Block} (hcutoff : 0 < b.info.policy.cutoff.toNat)
    (hparent : b.parent = parent) (hchildren : b.content.children = []) {order : List Nat}
    (hpass : b.pass = .start order)
    (horder : order.Perm (List.range b.content.count)) : Grown parent t (t.push b) [t.size] where
  size_le := by simp
  same := fun hi => by rw [Array.getElem?_push_lt hi, Array.getElem?_eq_getElem hi]
  outer := by
    intro i hi
    obtain rfl := List.mem_singleton.1 hi
    exact ⟨Nat.le_refl _, b, Array.getElem?_push_size, hparent⟩
  nodup := List.nodup_singleton _
  begun := by
    intro i d hi hd
    have hlt := lt_size_of_getElem? hd
    rw [Array.size_push] at hlt
    obtain rfl : i = t.size := by omega
    rw [Array.getElem?_push_size] at hd
    cases hd
    refine ⟨hcutoff, ?_, ⟨order, hpass, horder⟩, ?_⟩
    · rw [hchildren]
      exact List.nodup_nil
    · intro c hc
      rw [hchildren] at hc
      cases hc
  held := by
    intro i hi hlt
    rw [Array.size_push] at hlt
    exact .inl (List.mem_singleton.2 (by omega))

/-- A block that holds the blocks put in after it has not been run. -/
theorem Grown.begun_put {empty full : Block} (h : Grown (some t.size) (t.push empty) t' numbers)
    (hcutoff : 0 < full.info.policy.cutoff.toNat) (hcontent : full.content = .blocks numbers)
    {order : List Nat} (hpass : full.pass = .start order)
    (horder : order.Perm (List.range numbers.length)) :
    (t'.put t.size full).Begun t.size full where
  cutoff_pos := hcutoff
  nodup_children := by
    rw [hcontent]
    exact h.nodup
  start := by
    refine ⟨order, hpass, ?_⟩
    rw [hcontent]
    exact horder
  inside := by
    intro c hc
    rw [hcontent] at hc
    obtain ⟨hle, d, hd, hp⟩ := h.outer hc
    have hlt : t.size < c := by rwa [Array.size_push] at hle
    exact ⟨hlt, d, (getElem?_put_of_ne (Nat.ne_of_lt hlt)).trans hd, hp⟩

/-- A block is put in, then the blocks inside it, and then it is given these. -/
theorem Grown.put {empty full : Block} (h : Grown (some t.size) (t.push empty) t' numbers)
    (hcutoff : 0 < full.info.policy.cutoff.toNat) (hparent : full.parent = parent)
    (hcontent : full.content = .blocks numbers) {order : List Nat}
    (hpass : full.pass = .start order) (horder : order.Perm (List.range numbers.length)) :
    Grown parent t (t'.put t.size full) [t.size] := by
  have hpush : (t.push empty).size = t.size + 1 := Array.size_push ..
  have hlt : t.size < t'.size := Nat.lt_of_lt_of_le (by omega) h.size_le
  have hget : (t'.put t.size full)[t.size]? = some full :=
    getElem?_put_self (Array.getElem?_eq_getElem hlt)
  constructor
  case size_le =>
    rw [size_put]
    exact Nat.le_of_lt hlt
  case same =>
    intro i hi
    rw [getElem?_put_of_ne (Nat.ne_of_gt hi), h.same (by omega), Array.getElem?_push_lt hi,
      Array.getElem?_eq_getElem hi]
  case outer =>
    intro i hi
    obtain rfl := List.mem_singleton.1 hi
    exact ⟨Nat.le_refl _, full, hget, hparent⟩
  case nodup => exact List.nodup_singleton _
  case begun =>
    intro i b hi hb
    rcases cases_of_put (Array.getElem?_eq_getElem hlt) hb with ⟨rfl, rfl⟩ | ⟨hne, hb⟩
    · exact h.begun_put hcutoff hcontent hpass horder
    · exact (h.begun (by omega) hb).congr fun hc _ => getElem?_put_of_ne (by omega)
  case held =>
    intro i hi hlt'
    rw [size_put] at hlt'
    by_cases hne : i = t.size
    · exact .inl (List.mem_singleton.2 hne)
    · rcases h.held (by omega) hlt' with hmem | ⟨p, b, hle, hp, hb, hc⟩
      · refine .inr ⟨t.size, full, Nat.le_refl _, by omega, hget, ?_⟩
        rw [hcontent]
        exact hmem
      · have hp' : t.size ≠ p := by omega
        exact .inr ⟨p, b, by omega, hp, (getElem?_put_of_ne hp').trans hb, hc⟩

/-- Blocks put into an empty table, some of them without a block around them, form a forest. -/
theorem Grown.sound (h : Grown none #[] t numbers) : t.Sound where
  inside_of_mem := fun hb hc => ((h.begun (Nat.zero_le _) hb).inside hc).2
  mem_of_inside := by
    rintro c p ⟨d, hd, hp⟩
    rcases h.held (Nat.zero_le c) (lt_size_of_getElem? hd) with hc | ⟨q, b, -, hlt, hb, hc⟩
    · obtain ⟨-, d', hd', hnone⟩ := h.outer hc
      rw [hd] at hd'
      cases hd'
      cases hp.symm.trans hnone
    · obtain rfl : q = p := ((h.begun (Nat.zero_le _) hb).inside hc).2.unique ⟨d, hd, hp⟩
      exact ⟨hlt, b, hb, hc⟩
  nodup_children := fun hb => (h.begun (Nat.zero_le _) hb).nodup_children
  order_perm := by
    intro i b hb
    obtain ⟨order, hpass, horder⟩ := (h.begun (Nat.zero_le _) hb).start
    rw [hpass]
    exact horder

/-- The blocks handed back are those without a block around them. -/
theorem Grown.mem_iff (h : Grown none #[] t numbers) {i : Nat} :
    i ∈ numbers ↔ ∃ b, t[i]? = some b ∧ b.parent = none := by
  constructor
  · exact fun hi => (h.outer hi).2
  · rintro ⟨b, hb, hnone⟩
    rcases h.held (Nat.zero_le i) (lt_size_of_getElem? hb) with hi | ⟨p, d, -, -, hd, hi⟩
    · exact hi
    · obtain ⟨b', hb', hp⟩ := ((h.begun (Nat.zero_le _) hd).inside hi).2
      rw [hb] at hb'
      cases hb'
      cases hnone.symm.trans hp

end BlockTable

namespace Experiment

open BlockTable

variable {s : Script} {o : BuildOptions}

theorem perm_of_orderBlocks {exchangeable counterbalance : List String} {t : BlockTable}
    {numbers order : List Nat} {w w' : Words}
    (h : orderBlocks o exchangeable counterbalance t numbers w = .ok (order, w')) :
    order.Perm (List.range numbers.length) := by
  simpa [idsOf] using perm_of_orderSiblings (eq_ok_of_mapError_eq_ok h)

theorem eq_of_blockInfo {path : Path} {head : BlockHead} {info : BlockInfo}
    (h : blockInfo s path head = .ok info) :
    info.id = head.id ∧ info.path = path ∧ info.policy = ⟨head.criterion, head.cutoff⟩ := by
  obtain ⟨runIf, -, h⟩ := exists_of_bind_eq_ok h
  cases h
  exact ⟨rfl, rfl, rfl⟩

theorem grown_of_buildLeaf {info : BlockInfo} {parent : Option Nat} {pseudorandom : Bool}
    {decls : List PageDecl} {t t' : BlockTable} {w w' : Words} {number : Nat}
    (hcutoff : 0 < info.policy.cutoff.toNat)
    (h : buildLeaf o info parent pseudorandom decls t w = .ok (number, t', w')) :
    Grown parent t t' [number] := by
  unfold buildLeaf at h
  dsimp only at h
  split at h
  next order horder =>
    cases h
    exact Grown.push hcutoff rfl rfl rfl (Page.perm_of_order horder)
  · cases h

mutual

/-- Building a block that breaks no rule puts it and the blocks inside it into the table. -/
theorem grown_of_buildBlock {parent : Option Nat} {path : Path} :
    ∀ {d : BlockDecl} {t t' : BlockTable} {w w' : Words} {number : Nat},
      Violation.within s path d = [] →
      buildBlock s o parent path d t w = .ok (number, t', w') → Grown parent t t' [number]
  | { toBlockHead := head, blocks := none }, t, t', w, w', number, hrules, h => by
    rw [buildBlock] at h
    obtain ⟨info, hinfo, h⟩ := exists_of_bind_eq_ok h
    have hcutoff : 0 < info.policy.cutoff.toNat := by
      rw [(eq_of_blockInfo hinfo).2.2]
      exact Violation.cutoff_pos hrules
    dsimp only at h
    split at h
    · exact grown_of_buildLeaf hcutoff h
    · obtain ⟨⟨pages, w⟩, -, h⟩ := exists_of_bind_eq_ok h
      exact grown_of_buildLeaf hcutoff h
    · cases h
  | { toBlockHead := head, blocks := some blocks }, t, t', w, w', number, hrules, h => by
    rw [buildBlock] at h
    obtain ⟨info, hinfo, h⟩ := exists_of_bind_eq_ok h
    have hcutoff : 0 < info.policy.cutoff.toNat := by
      rw [(eq_of_blockInfo hinfo).2.2]
      exact Violation.cutoff_pos hrules
    have hpath : info.path = path.child head.id := (eq_of_blockInfo hinfo).2.1
    dsimp only at h
    split at h
    · cases h
    · obtain ⟨⟨numbers, filled, w⟩, hfilled, h⟩ := exists_of_bind_eq_ok h
      obtain ⟨⟨order, w⟩, horder, h⟩ := exists_of_bind_eq_ok h
      cases h
      rw [hpath] at hfilled
      have hrest := Violation.withinAll_of_within hrules
      exact (grown_of_buildBlocks hrest hfilled).put hcutoff rfl rfl rfl
        (perm_of_orderBlocks horder)

/-- Building some blocks that break no rule puts them and the blocks inside them into the table. -/
theorem grown_of_buildBlocks {parent : Option Nat} {path : Path} :
    ∀ {decls : List BlockDecl} {t t' : BlockTable} {w w' : Words} {numbers : List Nat},
      Violation.withinAll s path decls = [] →
      buildBlocks s o parent path decls t w = .ok (numbers, t', w') → Grown parent t t' numbers
  | [], t, t', w, w', numbers, _, h => by
    rw [buildBlocks] at h
    cases h
    exact .nil parent t
  | d :: rest, t, t', w, w', numbers, hrules, h => by
    rw [Violation.withinAll] at hrules
    obtain ⟨hblock, hrest⟩ := List.append_eq_nil_iff.1 hrules
    rw [buildBlocks] at h
    obtain ⟨⟨number, t, w⟩, hfirst, h⟩ := exists_of_bind_eq_ok h
    obtain ⟨⟨numbers, t, w⟩, hothers, h⟩ := exists_of_bind_eq_ok h
    cases h
    exact (grown_of_buildBlock hblock hfirst).append (grown_of_buildBlocks hrest hothers)

end

/-! ## The experiment -/

/-- An experiment that stands before its beginning. -/
structure Ready (e : Experiment) : Prop where
  sound : e.Sound
  position : e.position = none
  cursor : e.cursor = 0
  finished : e.finished = false
  cutoff_pos : ∀ {i : Nat} {b : Block}, e.table[i]? = some b → 0 < b.info.policy.cutoff.toNat
  iteration : ∀ {i : Nat} {b : Block}, e.table[i]? = some b → b.pass.iteration = 1

/-- Building from a script that breaks no rule. -/
theorem build_eq (hwindow : o.window ≠ 0) (hrules : s.violations = []) (w : Words) :
    build s o w = do
      let (numbers, table, w) ← buildBlocks s o none .root s.blocks #[] w
      let (order, w) ← orderBlocks o s.exchangeable s.counterbalance table numbers w
      return {
        assignment := o.assignment
        window := o.window
        table
        roots := order.filterMap fun place => numbers[place]?
        chance := { words := w } } := by
  unfold build
  dsimp only
  rw [if_neg hwindow, hrules]

theorem violations_eq_nil_of_build {e : Experiment} {w : Words} (h : build s o w = .ok e) :
    o.window ≠ 0 ∧ s.violations = [] := by
  unfold build at h
  dsimp only at h
  split at h
  · cases h
  next hwindow =>
    split at h
    next hrules => exact ⟨hwindow, hrules⟩
    · cases h

/-- What building from a script without violations goes through. -/
theorem exists_of_build {e : Experiment} {w : Words} (h : build s o w = .ok e) :
    s.violations = [] ∧ ∃ numbers order w' w'',
      buildBlocks s o none .root s.blocks #[] w = .ok (numbers, e.table, w') ∧
        orderBlocks o s.exchangeable s.counterbalance e.table numbers w' = .ok (order, w'') ∧
        e = {
          assignment := o.assignment
          window := o.window
          table := e.table
          roots := order.filterMap fun place => numbers[place]?
          chance := { words := w'' } } := by
  obtain ⟨hwindow, hrules⟩ := violations_eq_nil_of_build h
  rw [build_eq hwindow hrules] at h
  obtain ⟨⟨numbers, table, w'⟩, hbuilt, h⟩ := exists_of_bind_eq_ok h
  obtain ⟨⟨order, w''⟩, horder, h⟩ := exists_of_bind_eq_ok h
  cases h
  exact ⟨hrules, numbers, order, w', w'', hbuilt, horder, rfl⟩

theorem assignment_of_build {e : Experiment} {w : Words} (h : build s o w = .ok e) :
    e.assignment = o.assignment := by
  obtain ⟨-, numbers, order, w', w'', -, -, he⟩ := exists_of_build h
  rw [he]

/-- An experiment that has been built stands before its beginning. -/
theorem ready_of_build {e : Experiment} {w : Words} (h : build s o w = .ok e) : e.Ready := by
  obtain ⟨hrules, numbers, order, w', w'', hbuilt, horder, he⟩ := exists_of_build h
  have hgrown : Grown none #[] e.table numbers :=
    grown_of_buildBlocks (List.append_eq_nil_iff.1 hrules).2 hbuilt
  have hroots : e.roots.Perm numbers := by
    rw [he]
    exact filterMap_getElem?_perm (perm_of_orderBlocks horder)
  have hposition : e.position = none := by rw [he]
  refine ⟨⟨hgrown.sound, hroots.nodup_iff.2 hgrown.nodup, ?_, ?_⟩, hposition, by rw [he],
    by rw [he], fun hb => (hgrown.begun (Nat.zero_le _) hb).cutoff_pos, ?_⟩
  · intro i
    rw [hroots.mem_iff, hgrown.mem_iff]
  · intro i hi
    cases hposition.symm.trans hi
  · intro i b hb
    obtain ⟨order, hpass, -⟩ := (hgrown.begun (Nat.zero_le _) hb).start
    rw [hpass]
    rfl

/-- In an experiment that has been built no block has taken anything. -/
theorem consumed_of_build {e : Experiment} {w : Words} (h : build s o w = .ok e) {i : Nat}
    {b : Block} (hb : e.table[i]? = some b) : b.pass.consumed = [] := by
  obtain ⟨hrules, numbers, order, w', w'', hbuilt, -⟩ := exists_of_build h
  have hgrown : Grown none #[] e.table numbers :=
    grown_of_buildBlocks (List.append_eq_nil_iff.1 hrules).2 hbuilt
  obtain ⟨order, hpass, -⟩ := (hgrown.begun (Nat.zero_le _) hb).start
  rw [hpass]
  rfl

/-! ## Experiments to read theorems by -/

/-- A block that may run twice, holding one that may run three times in each of these passes and one
without pages. -/
def training : Script where
  blocks := [
    { id := "training", criterion := some .one, cutoff := 2,
      blocks := some [
        { id := "practice", criterion := some .one, cutoff := 3,
          pages := some [{ id := "trial" }] },
        { id := "pause", pages := some [] }] }]

/-- Answers that are graded in one way wherever they are asked for. -/
def gradedAnswers (correct : Bool) : Answers := ⟨fun _ => [correct], fun _ => none, fun _ => none⟩

theorem exists_build_training (w : Words) : ∃ e, build training {} w = .ok e := ⟨_, by rfl⟩

/-- A page with a condition. -/
def testPage (id : String) (c : Int) : PageDecl := { id, condition := some (.number c) }

/-- A block that takes one page of each of two groups by a Latin square and keeps them apart.  The
pages of the first group have the conditions `1` and `2`. -/
def testBlock (c c' : Int) : BlockDecl where
  id := "test"
  latinSquare := true
  pseudorandom := true
  groups := some [[testPage "p1" 1, testPage "p2" 2], [testPage "q1" c, testPage "q2" c']]

/-- Groups with the same conditions in the same order: the Latin square takes one page of each
condition. -/
def paired : Script where
  blocks := [testBlock 1 2]

end Experiment

end Trials
