import Mathlib.Data.List.Chain
import Trials.Proofs.Experiment.Reachable

/-!
# The structure of a reachable experiment

Whatever has been answered on the way, a reachable experiment is `Intact`: no child of a block has
been lost or listed twice; blocks form a forest, to each of whose blocks one way leads down from a
top-level block (`Descent`); the position lies where the blocks around it have last taken a child;
and whatever is answered next, there is a next move and no fault.
-/

namespace Trials

namespace Experiment

variable {e : Experiment} {i : Nat} {path : List Nat}

/-- A way down from a top-level block to the block with a number, each block on it being held by the
one before it. -/
structure Descent (e : Experiment) (path : List Nat) (i : Nat) : Prop where
  head : ∃ r ∈ e.roots, path.head? = some r
  last : path.getLast? = some i
  chain : path.IsChain fun p c => ∃ b, e.table[p]? = some b ∧ c ∈ b.content.children

/-- The way to a block is the block alone, or goes through a block that holds it. -/
theorem Descent.cases (h : e.Descent path i) :
    path = [i] ∧ i ∈ e.roots ∨
      ∃ init p, path = init ++ [i] ∧ e.Descent init p ∧
        ∃ b, e.table[p]? = some b ∧ i ∈ b.content.children := by
  obtain ⟨init, rfl⟩ := List.getLast?_eq_some_iff.1 h.last
  obtain ⟨r, hr, hhead⟩ := h.head
  cases hinit : init.getLast? with
  | none =>
    rw [List.getLast?_eq_none_iff.1 hinit] at hhead ⊢
    cases hhead
    exact .inl ⟨rfl, hr⟩
  | some p =>
    obtain ⟨hchain, -, hlink⟩ := List.isChain_append.1 h.chain
    have hne : init ≠ [] := by
      rintro rfl
      cases hinit
    rw [List.head?_append_of_ne_nil _ hne] at hhead
    exact .inr ⟨init, p, rfl, ⟨⟨r, hr, hhead⟩, hinit, hchain⟩, hlink p hinit i rfl⟩

theorem Descent.append (h : e.Descent path i) {c : Nat} {b : Block} (hb : e.table[i]? = some b)
    (hc : c ∈ b.content.children) : e.Descent (path ++ [c]) c where
  head := by
    obtain ⟨r, hr, hhead⟩ := h.head
    have hne : path ≠ [] := by
      rintro rfl
      cases hhead
    exact ⟨r, hr, (List.head?_append_of_ne_nil _ hne).trans hhead⟩
  last := List.getLast?_concat
  chain := by
    refine List.isChain_append.2 ⟨h.chain, List.isChain_singleton _, ?_⟩
    intro p hp d hd
    cases h.last.symm.trans hp
    cases hd
    exact ⟨b, hb, hc⟩

/-- One way leads down to each block. -/
theorem Sound.existsUnique_descent (h : e.Sound) {i : Nat} (hi : i < e.table.size) :
    ∃! path, e.Descent path i := by
  obtain ⟨d, hd⟩ := BlockTable.exists_of_lt_size hi
  cases hp : d.parent with
  | none =>
    have hroot : i ∈ e.roots := h.mem_roots.2 ⟨d, hd, hp⟩
    refine ⟨[i], ⟨⟨i, hroot, rfl⟩, rfl, List.isChain_singleton i⟩, ?_⟩
    intro path hpath
    rcases hpath.cases with ⟨rfl, -⟩ | ⟨init, q, -, -, b, hb, hmem⟩
    · rfl
    · exact absurd (h.table.inside_of_mem hb hmem) (h.not_inside_of_mem_roots hroot)
  | some p =>
    have hinside : e.table.Inside i p := ⟨d, hd, hp⟩
    obtain ⟨hlt, b, hb, hmem⟩ := h.table.mem_of_inside hinside
    obtain ⟨path, hpath, hunique⟩ := h.existsUnique_descent (Nat.lt_trans hlt hi)
    refine ⟨path ++ [i], hpath.append hb hmem, ?_⟩
    intro path' hpath'
    rcases hpath'.cases with ⟨-, hroot⟩ | ⟨init, q, rfl, hinit, k, hk, hmem⟩
    · exact absurd hinside (h.not_inside_of_mem_roots hroot)
    · obtain rfl : q = p := (h.table.inside_of_mem hk hmem).unique hinside
      rw [hunique init hinit]
termination_by i

/-- Each block stands within a top-level block. -/
theorem Sound.exists_root (h : e.Sound) {i : Nat} (hi : i < e.table.size) :
    ∃ r ∈ e.roots, e.table.Within i r := by
  obtain ⟨d, hd⟩ := BlockTable.exists_of_lt_size hi
  cases hp : d.parent with
  | none => exact ⟨i, h.mem_roots.2 ⟨d, hd, hp⟩, .refl⟩
  | some p =>
    have hlt : p < i := h.table.lt_of_inside ⟨d, hd, hp⟩
    obtain ⟨r, hr, hw⟩ := h.exists_root (Nat.lt_trans hlt hi)
    exact ⟨r, hr, hw.head ⟨d, hd, hp⟩⟩
termination_by i

/-- What is true of an experiment at all times. -/
structure Intact (e : Experiment) : Prop where
  /-- What has been taken and what is left are together all children of a block. -/
  order_perm : ∀ {i : Nat} {b : Block}, e.table[i]? = some b →
    (b.pass.consumed ++ b.pass.remaining).Perm (List.range b.content.count)
  /-- A block holds the blocks that know it as the block around them. -/
  mem_children_iff : ∀ {p c : Nat}, (∃ b, e.table[p]? = some b ∧ c ∈ b.content.children) ↔
    ∃ d, e.table[c]? = some d ∧ d.parent = some p
  /-- A block holds another one once. -/
  nodup_children : ∀ {i : Nat} {b : Block}, e.table[i]? = some b → b.content.children.Nodup
  /-- The top-level blocks are those without a block around them. -/
  mem_roots : ∀ {i : Nat}, i ∈ e.roots ↔ ∃ b, e.table[i]? = some b ∧ b.parent = none
  /-- A top-level block is listed once. -/
  nodup_roots : e.roots.Nodup
  /-- One way leads down to each block. -/
  existsUnique_descent : ∀ {i : Nat}, i < e.table.size → ∃! path, e.Descent path i
  /-- The position is a block. -/
  position_lt : ∀ {i : Nat}, e.position = some i → i < e.table.size
  /-- Each block around the position has last taken the next one towards it. -/
  last_taken : ∀ {i c p : Nat}, e.position = some i → e.table.Within i c → e.table.Inside c p →
    ∃ b place, e.table[p]? = some b ∧ b.pass.consumed.getLast? = some place ∧
      b.content.children[place]? = some c
  /-- The top-level block around the position was the last to be entered. -/
  last_entered : ∀ {i : Nat}, e.position = some i →
    ∃ k r, e.cursor = k + 1 ∧ e.roots[k]? = some r ∧ e.table.Within i r
  /-- Whatever is answered, there is a next move. -/
  exists_move : ∀ answers, ∃ m e', e.move answers = pure (m, e')
  /-- Whatever is answered, a run to the next page or to the end has no fault. -/
  run_ne_throw : ∀ answers fault, e.run answers ≠ throw fault

theorem Sound.intact (h : e.Sound) (hpath : e.OnPath) : e.Intact where
  order_perm := h.table.order_perm
  mem_children_iff := by
    intro p c
    constructor
    · rintro ⟨b, hb, hc⟩
      exact h.table.inside_of_mem hb hc
    · intro hc
      exact (h.table.mem_of_inside hc).2
  nodup_children := h.table.nodup_children
  mem_roots := h.mem_roots
  nodup_roots := h.nodup_roots
  existsUnique_descent := h.existsUnique_descent
  position_lt := h.position_lt
  last_taken := fun hposition hc hp => (hpath _ hposition _ hc).last_taken hp
  last_entered := by
    intro i hposition
    obtain ⟨r, hr, hw⟩ := h.exists_root (h.position_lt hposition)
    obtain ⟨b, hb, hp⟩ := h.mem_roots.1 hr
    obtain ⟨hpos, hroot⟩ := (hpath i hposition r hw).last_entered hb hp
    exact ⟨e.cursor - 1, r, by omega, hroot, hw⟩
  exists_move := by
    intro answers
    obtain ⟨m, e', hmoved⟩ := h.exists_moved answers
    exact ⟨m, e', hmoved.move_eq⟩
  run_ne_throw := by
    intro answers fault hthrow
    obtain ⟨m, e', hruns⟩ := h.exists_runs answers
    cases hruns.run_eq.symm.trans hthrow

/-- Every experiment that moves lead to from one that has been built is intact, and calls lead from
it to such experiments alone. -/
theorem intact_of_reachable {s : Script} {o : BuildOptions} {w : Words} {start e : Experiment}
    (hbuild : build s o w = .ok start) (hreach : Reachable start e) :
    e.Intact ∧ ∀ {σ : Type} [OutcomeStore σ] (store : σ), Reachable start (e.advance store).2.1 := by
  have hready := ready_of_build hbuild
  refine ⟨?_, fun store => hreach.advance hready.sound store⟩
  obtain ⟨seen, h⟩ := hreach
  exact (h.sound hready.sound).intact (h.onPath hready.sound hready.onPath)

/-- The training is intact when its first page is shown. -/
theorem intact_at_first_page :
    ∃ start, build training {} (Words.ofSeed 0) = .ok start ∧
      Reachable start (start.advance ({} : MemoryStore)).2.1 ∧
      (start.advance ({} : MemoryStore)).2.1.Intact := by
  obtain ⟨start, hbuild⟩ := exists_build_training (Words.ofSeed 0)
  have hreach : Reachable start (start.advance ({} : MemoryStore)).2.1 :=
    Reachable.advance ⟨[], .start⟩ (ready_of_build hbuild).sound _
  exact ⟨start, hbuild, hreach, (intact_of_reachable hbuild hreach).1⟩

end Experiment

end Trials
