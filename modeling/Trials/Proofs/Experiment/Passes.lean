import Mathlib.Algebra.BigOperators.Group.Finset.Sigma
import Trials.Proofs.Experiment.Reachable

/-!
# How often a block runs and a page is shown

A block begins anew by its own decision, which its cutoff allows only a number of times, or along
with the block around it.  So its passes keep pace with those of the block around it
(`BlockTable.Paced`), and their number is at most `BlockTable.passBound`, which adds up what the
cutoffs of the block and of all blocks around it allow.  In each pass a page is shown at most once
(`BlockTable.Counted`), so a whole run shows no more than `BlockTable.displayBound` pages.
-/

namespace Trials

namespace BlockTable

variable {t t' : BlockTable} {seen : List (Nat × Nat)}

/-! ## Bounds -/

/-- The number of the block around the block with a number. -/
def outer (t : BlockTable) (i : Nat) : Option Nat := (t[i]?).bind (·.parent)

/-- How often the block with a number may begin anew by its own decision. -/
def repeats (t : BlockTable) (i : Nat) : Nat :=
  ((t[i]?).map fun b => b.info.policy.cutoff.toNat - 1).getD 0

/-- How many pages the block with a number passes over. -/
def pageCount (t : BlockTable) (i : Nat) : Nat :=
  ((t[i]?).map fun b => b.content.shown.length).getD 0

/-- The number of a block and those of all blocks around it, innermost first. -/
def lineage (t : BlockTable) (i : Nat) : List Nat :=
  match t.outer i with
  | some p => if p < i then i :: lineage t p else [i]
  | none => [i]

/-- The largest number of passes of the block with a number. -/
def passBound (t : BlockTable) (i : Nat) : Nat := 1 + ((t.lineage i).map t.repeats).sum

/-- The largest number of pages that a run shows. -/
def displayBound (t : BlockTable) : Nat :=
  ∑ i ∈ Finset.range t.size, t.pageCount i * t.passBound i

theorem lineage_of_inside {c p : Nat} (h : t.Inside c p) (hlt : p < c) :
    t.lineage c = c :: t.lineage p := by
  obtain ⟨b, hb, hp⟩ := h
  have houter : t.outer c = some p := by rw [outer, hb, Option.bind_some, hp]
  rw [lineage, houter]
  dsimp only
  rw [if_pos hlt]

theorem lineage_of_top {i : Nat} {b : Block} (hb : t[i]? = some b) (hp : b.parent = none) :
    t.lineage i = [i] := by
  have houter : t.outer i = none := by rw [outer, hb, Option.bind_some, hp]
  rw [lineage, houter]

/-- The lineage of a block lists the blocks within which it stands. -/
theorem Sound.mem_lineage (h : t.Sound) {i : Nat} (hi : i < t.size) {a : Nat} :
    a ∈ t.lineage i ↔ t.Within i a := by
  obtain ⟨b, hb⟩ := exists_of_lt_size hi
  cases hp : b.parent with
  | none =>
    rw [lineage_of_top hb hp, List.mem_singleton]
    constructor
    · rintro rfl
      exact .refl
    · intro ha
      rcases Relation.ReflTransGen.cases_head ha with rfl | ⟨q, ⟨d, hd, hq⟩, -⟩
      · rfl
      · rw [hb] at hd
        cases hd
        cases hp.symm.trans hq
  | some p =>
    have hinside : t.Inside i p := ⟨b, hb, hp⟩
    have hlt := h.lt_of_inside hinside
    rw [lineage_of_inside hinside hlt, List.mem_cons, h.mem_lineage (Nat.lt_trans hlt hi)]
    constructor
    · rintro (rfl | ha)
      · exact .refl
      · exact ha.head hinside
    · intro ha
      rcases Relation.ReflTransGen.cases_head ha with rfl | ⟨q, hq, ha⟩
      · exact .inl rfl
      · rw [hq.unique hinside] at ha
        exact .inr ha

/-- A block is listed once in its lineage, whose other numbers are smaller. -/
theorem lineage_pairwise (t : BlockTable) (i : Nat) : (t.lineage i).Pairwise (· > ·) := by
  have hle : ∀ i, ∀ a ∈ t.lineage i, a ≤ i := by
    intro i
    induction i using Nat.strong_induction_on with
    | _ i ih =>
      intro a ha
      rw [lineage] at ha
      split at ha
      next p _ =>
        split at ha
        next hlt =>
          rcases List.mem_cons.1 ha with rfl | ha
          · exact Nat.le_refl _
          · exact Nat.le_trans (ih p hlt a ha) (Nat.le_of_lt hlt)
        · exact Nat.le_of_eq (List.mem_singleton.1 ha)
      · exact Nat.le_of_eq (List.mem_singleton.1 ha)
  induction i using Nat.strong_induction_on with
  | _ i ih =>
    rw [lineage]
    split
    next p _ =>
      split
      next hlt =>
        exact List.pairwise_cons.2 ⟨fun a ha => Nat.lt_of_le_of_lt (hle p a ha) hlt, ih p hlt⟩
      · exact List.pairwise_singleton _ _
    · exact List.pairwise_singleton _ _

/-! ### The bounds never change -/

theorem cases_of_shapes (h : t'.shapes = t.shapes) (i : Nat) :
    (t'[i]? = none ∧ t[i]? = none) ∨
      ∃ b b', t[i]? = some b ∧ t'[i]? = some b' ∧ b'.shape = b.shape := by
  cases hb : t[i]? with
  | none =>
    refine .inl ⟨?_, rfl⟩
    rw [Array.getElem?_eq_none_iff] at hb ⊢
    rwa [size_of_shapes h]
  | some b =>
    obtain ⟨b', hb', hs⟩ := exists_of_shapes h hb
    exact .inr ⟨b, b', rfl, hb', hs⟩

theorem outer_congr (h : t'.shapes = t.shapes) (i : Nat) : t'.outer i = t.outer i := by
  rcases cases_of_shapes h i with ⟨h', h⟩ | ⟨b, b', hb, hb', hs⟩
  · rw [outer, outer, h', h]
  · rw [outer, outer, hb, hb', Option.bind_some, Option.bind_some, (Block.shape_inj.1 hs).2.1]

theorem repeats_congr (h : t'.shapes = t.shapes) (i : Nat) : t'.repeats i = t.repeats i := by
  rcases cases_of_shapes h i with ⟨h', h⟩ | ⟨b, b', hb, hb', hs⟩
  · rw [repeats, repeats, h', h]
  · rw [repeats, repeats, hb, hb', Option.map_some, Option.map_some, (Block.shape_inj.1 hs).1]

theorem lineage_congr (h : t'.shapes = t.shapes) (i : Nat) : t'.lineage i = t.lineage i := by
  induction i using Nat.strong_induction_on with
  | _ i ih =>
    rw [lineage, lineage.eq_def t, outer_congr h]
    split
    next p _ =>
      split
      next hlt => rw [ih p hlt]
      · rfl
    · rfl

theorem passBound_congr (h : t'.shapes = t.shapes) (i : Nat) : t'.passBound i = t.passBound i := by
  rw [passBound, passBound, lineage_congr h, List.map_congr_left fun a _ => repeats_congr h a]

theorem pageCount_congr (h : t'.shapes = t.shapes) (i : Nat) : t'.pageCount i = t.pageCount i := by
  rcases cases_of_shapes h i with ⟨h', h⟩ | ⟨b, b', hb, hb', hs⟩
  · rw [pageCount, pageCount, h', h]
  · rw [pageCount, pageCount, hb, hb', Option.map_some, Option.map_some, (Block.shape_inj.1 hs).2.2]

theorem displayBound_congr (h : t'.shapes = t.shapes) : t'.displayBound = t.displayBound := by
  rw [displayBound, displayBound, size_of_shapes h]
  refine Finset.sum_congr rfl fun i _ => ?_
  rw [pageCount_congr h, passBound_congr h]

/-! ## Passes -/

theorem repeats_eq {i : Nat} {b : Block} (hb : t[i]? = some b) :
    t.repeats i = b.info.policy.cutoff.toNat - 1 := by
  rw [repeats, hb, Option.map_some, Option.getD_some]

/-- The passes of a block keep pace with those of the block around it. -/
structure Paced (t : BlockTable) : Prop where
  /-- There is no pass before the first. -/
  iteration_pos : ∀ {i : Nat} {b : Block}, t[i]? = some b → 1 ≤ b.pass.iteration
  /-- A block has begun anew along with the block around it or by its own decision. -/
  le_outer : ∀ {c p : Nat} {b d : Block}, t[c]? = some d → d.parent = some p → t[p]? = some b →
    d.pass.iteration ≤ b.pass.iteration + t.repeats c
  /-- A top-level block has begun anew by its own decision. -/
  le_top : ∀ {i : Nat} {b : Block}, t[i]? = some b → b.parent = none →
    b.pass.iteration ≤ 1 + t.repeats i

/-- A block has no more passes than its cutoff and those of the blocks around it allow. -/
theorem Paced.iteration_le (h : t.Paced) (ht : t.Sound) {i : Nat} {b : Block}
    (hb : t[i]? = some b) : b.pass.iteration ≤ t.passBound i := by
  cases hp : b.parent with
  | none =>
    rw [passBound, lineage_of_top hb hp]
    simpa using h.le_top hb hp
  | some p =>
    have hinside : t.Inside i p := ⟨b, hb, hp⟩
    obtain ⟨hlt, d, hd, -⟩ := ht.mem_of_inside hinside
    have houter := h.iteration_le ht hd
    have hself := h.le_outer hb hp hd
    rw [passBound] at houter ⊢
    rw [lineage_of_inside hinside hlt, List.map_cons, List.sum_cons]
    omega

/-- Only the numbers of passes count. -/
theorem Paced.congr (h : t.Paced) (hs : t'.shapes = t.shapes)
    (hsame : ∀ {j : Nat} {b b' : Block}, t[j]? = some b → t'[j]? = some b' →
      b'.pass.iteration = b.pass.iteration) : t'.Paced where
  iteration_pos := by
    intro i b' hb'
    obtain ⟨b, hb, -⟩ := exists_of_shapes hs.symm hb'
    rw [hsame hb hb']
    exact h.iteration_pos hb
  le_outer := by
    intro c p b' d' hd' hp hb'
    obtain ⟨d, hd, hds⟩ := exists_of_shapes hs.symm hd'
    obtain ⟨b, hb, -⟩ := exists_of_shapes hs.symm hb'
    rw [hsame hd hd', hsame hb hb', repeats_congr hs]
    exact h.le_outer hd ((Block.shape_inj.1 hds).2.1.trans hp) hb
  le_top := by
    intro i b' hb' hp
    obtain ⟨b, hb, hbs⟩ := exists_of_shapes hs.symm hb'
    rw [hsame hb hb', repeats_congr hs]
    exact h.le_top hb ((Block.shape_inj.1 hbs).2.1.trans hp)

/-- Taking a child is no new pass. -/
theorem iteration_of_take {i j place : Nat} {b d d' : Block} {pass : Pass Nat}
    (hb : t[i]? = some b) (htake : b.pass.take? = some (place, pass)) (hd : t[j]? = some d)
    (hd' : (t.put i { b with pass })[j]? = some d') : d'.pass.iteration = d.pass.iteration := by
  rcases cases_of_put hb hd' with ⟨rfl, rfl⟩ | ⟨-, hd'⟩
  · rw [hb] at hd
    cases hd
    exact (Pass.take?_eq_some htake).2.2
  · rw [hd] at hd'
    cases hd'
    rfl

theorem Paced.take (h : t.Paced) {i place : Nat} {b : Block} {pass : Pass Nat}
    (hb : t[i]? = some b) (htake : b.pass.take? = some (place, pass)) :
    (t.put i { b with pass }).Paced :=
  h.congr (shapes_put hb rfl) fun hd hd' => iteration_of_take hb htake hd hd'

/-- A block that is reached from another one is that block, or has been taken in a block that is
reached from it. -/
theorem Sound.eq_or_reached_outer (h : t.Sound) {i c : Nat} (hc : t.Reached i c) :
    c = i ∨ ∃ p, t.Inside c p ∧ t.Reached i p := by
  rcases Relation.ReflTransGen.cases_tail hc with rfl | ⟨p, hp, hc⟩
  · exact .inl rfl
  · exact .inr ⟨p, h.inside_of_taken hc, hp⟩

/-- Passes keep pace when a block that its cutoff still allows to begins anew. -/
theorem Paced.restart (h : t.Paced) (ht : t.Sound) {window i : Nat} {b : Block}
    (hb : t[i]? = some b) (hlt : b.pass.iteration < b.info.policy.cutoff.toNat)
    (hspec : Restarted window t t' (t.Reached i)) : t'.Paced where
  iteration_pos := by
    intro j d' hd'
    obtain ⟨d, hd, -, ⟨-, hiteration, -⟩ | ⟨-, rfl⟩⟩ := hspec.cases hd'
    · omega
    · exact h.iteration_pos hd
  le_outer := by
    intro c p k' d' hd' hp hk'
    rw [repeats_congr hspec.shapes]
    obtain ⟨d, hd, hds, hd''⟩ := hspec.cases hd'
    obtain ⟨k, hk, -, hk''⟩ := hspec.cases hk'
    have hparent : d.parent = some p := (Block.shape_inj.1 hds).2.1.symm.trans hp
    have hbefore := h.le_outer hd hparent hk
    have hpos := h.iteration_pos hk
    rcases hd'' with ⟨hreached, hd'', -⟩ | ⟨-, rfl⟩ <;>
      rcases hk'' with ⟨-, hk'', -⟩ | ⟨hout, rfl⟩
    · omega
    · -- the block around has not begun anew, so the decision was the block's own
      rcases ht.eq_or_reached_outer hreached with rfl | ⟨q, hq, hreached⟩
      · rw [hb] at hd
        cases hd
        rw [repeats_eq hb]
        omega
      · rw [hq.unique ⟨d, hd, hparent⟩] at hreached
        exact absurd hreached hout
    · omega
    · exact hbefore
  le_top := by
    intro j d' hd' hp
    rw [repeats_congr hspec.shapes]
    obtain ⟨d, hd, hds, ⟨hreached, hd'', -⟩ | ⟨-, rfl⟩⟩ := hspec.cases hd'
    · have hparent : d.parent = none := (Block.shape_inj.1 hds).2.1.symm.trans hp
      rcases ht.eq_or_reached_outer hreached with rfl | ⟨q, ⟨k, hk, hq⟩, -⟩
      · rw [hb] at hd
        cases hd
        rw [repeats_eq hb]
        omega
      · rw [hd] at hk
        cases hk
        cases hparent.symm.trans hq
    · exact h.le_top hd hp

/-! ## Pages shown -/

/-- In each of its passes a block shows a page at most once, and in the present one only if it has
taken it. -/
structure Counted (seen : List (Nat × Nat)) (t : BlockTable) : Prop where
  /-- A page has been shown at most once in each pass. -/
  count_lt : ∀ {i : Nat} {b : Block}, t[i]? = some b → ∀ place,
    seen.count (i, place) < b.pass.iteration + if place ∈ b.pass.consumed then 1 else 0
  /-- What has been shown is a page. -/
  lt_pageCount : ∀ {i place : Nat}, (i, place) ∈ seen → i < t.size ∧ place < t.pageCount i

theorem Counted.count_le (h : Counted seen t) {i : Nat} {b : Block} (hb : t[i]? = some b)
    (place : Nat) : seen.count (i, place) ≤ b.pass.iteration := by
  have := h.count_lt hb place
  split at this <;> omega

theorem Counted.restart (h : Counted seen t) {window : Nat} {anew : Nat → Prop}
    (hspec : Restarted window t t' anew) : Counted seen t' where
  count_lt := by
    intro i b' hb' place
    obtain ⟨b, hb, -, ⟨-, hiteration, hconsumed⟩ | ⟨-, rfl⟩⟩ := hspec.cases hb'
    · rw [hiteration, hconsumed, if_neg List.not_mem_nil]
      have := h.count_le hb place
      omega
    · exact h.count_lt hb place
  lt_pageCount := by
    intro i place hi
    rw [size_of_shapes hspec.shapes, pageCount_congr hspec.shapes]
    exact h.lt_pageCount hi

/-- Showing pages of one block, of which the pass knows. -/
theorem Counted.put (h : Counted seen t) {i : Nat} {b : Block} (b' : Block) (hb : t[i]? = some b)
    (hs : b'.shape = b.shape) {shown : List (Nat × Nat)}
    (hshown : ∀ x ∈ shown, x.1 = i ∧ x.2 < b.content.shown.length)
    (hcount : ∀ place, (seen ++ shown).count (i, place) <
      b'.pass.iteration + if place ∈ b'.pass.consumed then 1 else 0) :
    Counted (seen ++ shown) (t.put i b') where
  count_lt := by
    intro j d hd place
    rcases cases_of_put hb hd with ⟨rfl, rfl⟩ | ⟨hj, hd⟩
    · exact hcount place
    · have hnone : shown.count (j, place) = 0 :=
        List.count_eq_zero.2 fun hmem => hj (hshown _ hmem).1
      rw [List.count_append, hnone]
      exact h.count_lt hd place
  lt_pageCount := by
    intro j place hj
    rw [size_put, pageCount_congr (shapes_put hb hs)]
    rcases List.mem_append.1 hj with hj | hj
    · exact h.lt_pageCount hj
    · obtain ⟨rfl, hplace⟩ := hshown _ hj
      refine ⟨lt_size_of_getElem? hb, ?_⟩
      rw [pageCount, hb]
      exact hplace

/-- A block takes a child that is no page. -/
theorem Counted.take (h : Counted seen t) {i place : Nat} {b : Block} {pass : Pass Nat}
    (hb : t[i]? = some b) (htake : b.pass.take? = some (place, pass)) :
    Counted seen (t.put i { b with pass }) := by
  obtain ⟨-, hconsumed, hiteration⟩ := Pass.take?_eq_some htake
  have hput : Counted (seen ++ []) (t.put i { b with pass }) := by
    refine h.put { b with pass } hb rfl (by simp) fun k => ?_
    have hcount := h.count_lt hb k
    rw [List.append_nil, hiteration, hconsumed]
    by_cases hk : k ∈ b.pass.consumed
    · rw [if_pos hk] at hcount
      rwa [if_pos (List.mem_append_left _ hk)]
    · rw [if_neg hk] at hcount
      omega
  rwa [List.append_nil] at hput

/-- A block shows a page that it takes. -/
theorem Counted.display (h : Counted seen t) (ht : t.Sound) {i place : Nat} {b : Block}
    {pass : Pass Nat} (hb : t[i]? = some b) (htake : b.pass.take? = some (place, pass))
    (hplace : place < b.content.shown.length) :
    Counted (seen ++ [(i, place)]) (t.put i { b with pass }) := by
  obtain ⟨hremaining, hconsumed, hiteration⟩ := Pass.take?_eq_some htake
  refine h.put { b with pass } hb rfl ?_ fun k => ?_
  · rintro _ hx
    rw [List.mem_singleton.1 hx]
    exact ⟨rfl, hplace⟩
  · have hcount := h.count_lt hb k
    rw [hiteration, hconsumed, List.count_append]
    by_cases hk : k = place
    · -- the page had been left, so it had not been shown in this pass
      subst hk
      have hfresh : k ∉ b.pass.consumed := by
        have hnodup := ht.nodup_order hb
        rw [Pass.order, hremaining] at hnodup
        exact fun hk => (List.nodup_append.1 hnodup).2.2 k hk k List.mem_cons_self rfl
      rw [if_neg hfresh] at hcount
      rw [if_pos (List.mem_append_right _ (List.mem_singleton_self k)), List.count_singleton_self]
      omega
    · have hnone : [(i, place)].count (i, k) = 0 :=
        List.count_eq_zero.2 (by simpa using hk)
      rw [hnone]
      by_cases hk : k ∈ b.pass.consumed
      · rw [if_pos hk] at hcount
        rwa [if_pos (List.mem_append_left _ hk)]
      · rw [if_neg hk] at hcount
        omega

/-- Each page of a block has been shown at most as often as the block may run. -/
theorem Counted.sum_count_le (h : Counted seen t) (hpaced : t.Paced) (ht : t.Sound) (i : Nat) :
    ∑ x ∈ seen.toFinset with x.1 = i, seen.count x ≤ t.pageCount i * t.passBound i := by
  have hcount : ∀ x ∈ seen.toFinset.filter (·.1 = i), seen.count x ≤ t.passBound i := by
    rintro ⟨j, place⟩ hx
    obtain ⟨hmem, rfl⟩ := Finset.mem_filter.1 hx
    have hj := (h.lt_pageCount (List.mem_toFinset.1 hmem)).1
    obtain ⟨b, hb⟩ := exists_of_lt_size hj
    exact Nat.le_trans (h.count_le hb place) (hpaced.iteration_le ht hb)
  have hcard : (seen.toFinset.filter (·.1 = i)).card ≤ t.pageCount i := by
    have hsubset : seen.toFinset.filter (·.1 = i) ⊆
        (Finset.range (t.pageCount i)).image fun place => (i, place) := by
      rintro ⟨j, place⟩ hx
      obtain ⟨hmem, rfl⟩ := Finset.mem_filter.1 hx
      have hplace := (h.lt_pageCount (List.mem_toFinset.1 hmem)).2
      exact Finset.mem_image.2 ⟨place, Finset.mem_range.2 hplace, rfl⟩
    calc (seen.toFinset.filter (·.1 = i)).card
        ≤ ((Finset.range (t.pageCount i)).image fun place => (i, place)).card :=
          Finset.card_le_card hsubset
      _ ≤ (Finset.range (t.pageCount i)).card := Finset.card_image_le
      _ = t.pageCount i := Finset.card_range _
  calc ∑ x ∈ seen.toFinset with x.1 = i, seen.count x
      ≤ (seen.toFinset.filter (·.1 = i)).card * t.passBound i :=
        Finset.sum_le_card_nsmul _ _ _ hcount
    _ ≤ t.pageCount i * t.passBound i := Nat.mul_le_mul_right _ hcard

/-- A run shows no more pages than all passes of all blocks of pages hold. -/
theorem Counted.length_le (h : Counted seen t) (hpaced : t.Paced) (ht : t.Sound) :
    seen.length ≤ t.displayBound := by
  have hmaps : ∀ x ∈ seen.toFinset, x.1 ∈ Finset.range t.size := fun x hx =>
    Finset.mem_range.2 (h.lt_pageCount (List.mem_toFinset.1 hx)).1
  calc seen.length = ∑ x ∈ seen.toFinset, seen.count x := by
        convert (List.sum_toFinset_count_eq_length seen).symm
    _ = ∑ i ∈ Finset.range t.size, ∑ x ∈ seen.toFinset with x.1 = i, seen.count x :=
        (Finset.sum_fiberwise_of_maps_to hmaps _).symm
    _ ≤ t.displayBound := Finset.sum_le_sum fun i _ => h.sum_count_le hpaced ht i

end BlockTable

open BlockTable

namespace Experiment

variable {start e : Experiment} {seen : List (Nat × Nat)}

theorem Ready.paced (h : e.Ready) : e.table.Paced where
  iteration_pos := fun hb => Nat.le_of_eq (h.iteration hb).symm
  le_outer := by
    intro c p b d hd _ hb
    rw [h.iteration hd, h.iteration hb]
    exact Nat.le_add_right _ _
  le_top := by
    intro i b hb _
    rw [h.iteration hb]
    exact Nat.le_add_right _ _

theorem Ready.counted (h : e.Ready) : Counted [] e.table where
  count_lt := by
    intro i b hb place
    rw [h.iteration hb, List.count_nil]
    exact Nat.lt_of_lt_of_le Nat.zero_lt_one (Nat.le_add_right _ _)
  lt_pageCount := nofun

/-- A move keeps passes and pages bounded. -/
theorem Sound.paced_and_counted {e' : Experiment} {answers : Answers} {m : Motion} (h : e.Sound)
    (hpaced : e.table.Paced) (hcounted : Counted seen e.table) (hmoved : Moved answers e m e') :
    e'.table.Paced ∧ Counted (seen ++ m.seen) e'.table := by
  cases hmoved with
  | enter | ended | skip | leave =>
    rw [Motion.seen, List.append_nil]
    exact ⟨hpaced, hcounted⟩
  | descend hposition hb htake =>
    rw [Motion.seen, List.append_nil]
    exact ⟨hpaced.take hb htake, hcounted.take hb htake⟩
  | display hposition hb htake hholds hcontent hpage =>
    refine ⟨hpaced.take hb htake, hcounted.display h.table hb htake ?_⟩
    rw [hcontent]
    exact (List.getElem?_eq_some_iff.1 hpage).1
  | again hposition hb htake hdecide hrestart hspec =>
    rw [Motion.seen, List.append_nil]
    exact ⟨hpaced.restart h.table hb (LoopPolicy.lt_cutoff_of_decide hdecide) hspec,
      hcounted.restart hspec⟩

theorem Reaches.paced_and_counted (h : Reaches start seen e) (hstart : start.Ready) :
    e.table.Paced ∧ Counted seen e.table :=
  h.invariant (P := fun seen e => e.table.Paced ∧ Counted seen e.table) hstart.sound
    ⟨hstart.paced, hstart.counted⟩
    (fun hsound ih hmoved => hsound.paced_and_counted ih.1 ih.2 hmoved) id

theorem Reaches.iteration_le (h : Reaches start seen e) (hstart : start.Ready) {i : Nat} {b : Block}
    (hb : e.table[i]? = some b) : b.pass.iteration ≤ start.table.passBound i := by
  rw [← passBound_congr (h.shapes hstart.sound)]
  exact (h.paced_and_counted hstart).1.iteration_le (h.sound hstart.sound).table hb

theorem Reaches.length_le (h : Reaches start seen e) (hstart : start.Ready) :
    seen.length ≤ start.table.displayBound := by
  obtain ⟨hpaced, hcounted⟩ := h.paced_and_counted hstart
  rw [← displayBound_congr (h.shapes hstart.sound)]
  exact hcounted.length_le hpaced (h.sound hstart.sound).table

end Experiment

open Experiment

variable {σ : Type} [OutcomeStore σ] {responses : Nat → Response}

/-- A performance shows as many pages as the moves on its way. -/
theorem Performance.exists_reaches_of_leads {start : Experiment} {p q : Performance σ}
    (hleads : Leads responses p q) {seen : List (Nat × Nat)} (h : Reaches start seen p.experiment)
    (hlength : seen.length = p.displays.length) :
    ∃ seen', Reaches start seen' q.experiment ∧ seen'.length = q.displays.length := by
  induction hleads with
  | refl => exact ⟨seen, h, hlength⟩
  | tail _ hnext ih =>
    obtain ⟨seen', h', hlength'⟩ := ih
    cases hnext with
    | quiet hmoved =>
      refine ⟨_, h'.move _ hmoved.move_eq, ?_⟩
      rw [Motion.seen, List.append_nil, hlength']
    | display hmoved =>
      refine ⟨_, h'.move _ hmoved.move_eq, ?_⟩
      rw [Motion.seen, List.length_append, hlength', Performance.display, List.length_append]
      rfl

/-- In every state of a run each block has had at least one pass and at most as many as its cutoff
and those of the blocks around it allow, and has shown each of its pages at most once in each of
them.  So every run shows a bounded number of pages and then finalizes its store. -/
theorem Experiment.passes_and_displays_bounded {s : Script} {o : BuildOptions} {w : Words}
    {start : Experiment} (hbuild : build s o w = .ok start) :
    (∀ {i : Nat} {b : Block}, start.table[i]? = some b → 0 < b.info.policy.cutoff.toNat) ∧
      (∀ {seen : List (Nat × Nat)} {e : Experiment}, Reaches start seen e →
        (∀ {i : Nat} {b : Block}, e.table[i]? = some b →
          1 ≤ b.pass.iteration ∧ b.pass.iteration ≤ start.table.passBound i ∧
            ∀ place, seen.count (i, place) ≤ b.pass.iteration) ∧
        seen.length ≤ start.table.displayBound) ∧
      ∀ {σ : Type} [OutcomeStore σ] (store : σ) (responses : Nat → Response),
        ∃ last : Scene σ,
          Performance.Completes responses ⟨start, store, []⟩ last.finalize ∧
            last.displays.length ≤ start.table.displayBound := by
  have hready := ready_of_build hbuild
  refine ⟨hready.cutoff_pos, ?_, ?_⟩
  · intro seen e h
    obtain ⟨hpaced, hcounted⟩ := h.paced_and_counted hready
    refine ⟨fun hb => ?_, h.length_le hready⟩
    exact ⟨hpaced.iteration_pos hb, h.iteration_le hready hb, hcounted.count_le hb⟩
  · intro σ _ store responses
    obtain ⟨q, hroot, hq⟩ := Performance.exists_last responses
      (⟨start, store, []⟩ : Performance σ) hready.sound
    obtain ⟨seen, hreach, hlength⟩ := Performance.exists_reaches_of_leads hq.leads .start rfl
    refine ⟨q.scene, hq.completes hroot hready.sound hready.finished, ?_⟩
    exact hlength ▸ hreach.length_le hready

/-- A training in which every answer is wrong shows a bounded number of pages and ends. -/
theorem Experiment.training_ends :
    ∃ start, build training {} (Words.ofSeed 0) = .ok start ∧
      ∃ last : Scene MemoryStore,
        Performance.Completes (fun _ => .graded false) ⟨start, {}, []⟩ last.finalize ∧
          last.displays.length ≤ start.table.displayBound := by
  obtain ⟨start, hbuild⟩ := exists_build_training (Words.ofSeed 0)
  exact ⟨start, hbuild, (passes_and_displays_bounded hbuild).2.2 _ _⟩

end Trials
