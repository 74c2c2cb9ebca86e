import Trials.Proofs.Path
import Trials.Proofs.Experiment.Construction

/-!
# Labels

The identifiers and paths of blocks and pages, as building gives them.  Blocks that stand side by
side differ in their identifiers, which are plain, and each of them has the path of the block around
it with its identifier added (`BlockTable.Siblings`); so it is with the pages of a block
(`Block.Labelled`).  This is said of one block and what it holds, so that it can be carried through
building (`labelled_of_buildBlocks`); what it comes to for whole paths is left for later.
-/

namespace Trials

namespace BlockTable

variable {t t' : BlockTable} {path : Path} {numbers : List Nat}

/-- The blocks with some numbers can stand side by side beneath a path. -/
structure Siblings (t : BlockTable) (path : Path) (numbers : List Nat) : Prop where
  named : ∀ c ∈ numbers, ∃ b, t[c]? = some b ∧ Path.PlainId b.info.id ∧
    b.info.path = path.child b.info.id
  unique : ∀ {c c' : Nat} {b b' : Block}, c ∈ numbers → c' ∈ numbers → t[c]? = some b →
    t[c']? = some b' → b.info.id = b'.info.id → c = c'

theorem Siblings.congr (h : t.Siblings path numbers)
    (hsame : ∀ c ∈ numbers, c < t.size → ∃ b b', t[c]? = some b ∧ t'[c]? = some b' ∧
      b'.info = b.info) : t'.Siblings path numbers where
  named := by
    intro c hc
    obtain ⟨b, hb, hplain, hpath⟩ := h.named c hc
    obtain ⟨d, b', hd, hb', hinfo⟩ := hsame c hc (lt_size_of_getElem? hb)
    cases hb.symm.trans hd
    exact ⟨b', hb', hinfo ▸ hplain, by rw [hinfo, hpath]⟩
  unique := by
    intro c c' b b' hc hc' hb hb' hid
    obtain ⟨d, hd, -⟩ := h.named c hc
    obtain ⟨d', hd', -⟩ := h.named c' hc'
    obtain ⟨x, y, hx, hy, hinfo⟩ := hsame c hc (lt_size_of_getElem? hd)
    obtain ⟨x', y', hx', hy', hinfo'⟩ := hsame c' hc' (lt_size_of_getElem? hd')
    cases hb.symm.trans hy
    cases hb'.symm.trans hy'
    rw [hinfo, hinfo'] at hid
    exact h.unique hc hc' hx hx' hid

theorem Siblings.of_shapes (h : t.Siblings path numbers) (hs : t'.shapes = t.shapes) :
    t'.Siblings path numbers := by
  refine h.congr fun c _ hlt => ?_
  obtain ⟨b, hb⟩ := exists_of_lt_size hlt
  obtain ⟨b', hb', hshape⟩ := exists_of_shapes hs hb
  exact ⟨b, b', hb, hb', (Block.shape_inj.1 hshape).1⟩

end BlockTable

/-- What a block holds is labelled. -/
structure Block.Labelled (t : BlockTable) (b : Block) : Prop where
  blocks : t.Siblings b.info.path b.content.children
  pages : ∀ p ∈ b.content.shown, Path.PlainId p.id ∧ p.path = b.info.path.child p.id
  nodup_pages : (b.content.shown.map (·.id)).Nodup

namespace Experiment

open BlockTable Violation

variable {s : Script} {o : BuildOptions} {parent : Option Nat} {path : Path}
  {t t' t'' : BlockTable} {w w' : Words} {numbers : List Nat}

/-! ## Building -/

/-- The blocks that have been put into a table are labelled. -/
def Labels (t t' : BlockTable) : Prop :=
  ∀ (i : Nat) (b : Block), t.size ≤ i → t'[i]? = some b → b.Labelled t'

theorem Labels.nil (t : BlockTable) : Labels t t :=
  fun _ _ hi hb => absurd (lt_size_of_getElem? hb) (Nat.not_lt_of_le hi)

/-- What a block holds may be found in another table. -/
theorem labelled_congr {b : Block} (h : b.Labelled t)
    (hsame : ∀ c ∈ b.content.children, c < t.size → t'[c]? = t[c]?) : b.Labelled t' where
  blocks := by
    refine h.blocks.congr fun c hc hlt => ?_
    obtain ⟨d, hd⟩ := exists_of_lt_size hlt
    exact ⟨d, d, hd, (hsame c hc hlt).trans hd, rfl⟩
  pages := h.pages
  nodup_pages := h.nodup_pages

theorem Labels.append (h : Labels t t') (h' : Labels t' t'')
    (hsame : ∀ {i : Nat}, i < t'.size → t''[i]? = t'[i]?) : Labels t t'' := by
  intro i b hi hb
  by_cases hlt : i < t'.size
  · rw [hsame hlt] at hb
    exact labelled_congr (h i b hi hb) fun c _ hc => hsame hc
  · exact h' i b (Nat.le_of_not_lt hlt) hb

/-- Siblings that have been built are labelled. -/
theorem siblings_of_buildBlocks {decls : List BlockDecl} (hrules : withinAll s path decls = [])
    (hids : idsFaults [] (decls.map (·.id)) = [])
    (h : buildBlocks s o parent path decls t w = .ok (numbers, t', w')) :
    t'.Siblings path numbers where
  named := by
    have hfound := exists_of_buildBlocks hrules h
    have hplain := List.forall_mem_map.1 (plain_of_idsFaults hids)
    clear h hids hrules
    induction hfound with
    | nil => exact nofun
    | @cons number d numbers rest hfirst _ ih =>
      obtain ⟨hd, hrest⟩ := List.forall_mem_cons.1 hplain
      obtain ⟨b, hb, hid, hpath⟩ := hfirst
      refine List.forall_mem_cons.2 ⟨⟨b, hb, ?_, ?_⟩, ih hrest⟩
      · rw [hid]
        exact hd
      · rw [hpath, hid]
  unique := by
    intro c c' b b' hc hc' hb hb' hid
    have hnodup : (numbers.map fun number => (t'[number]?).map (·.info.id)).Nodup := by
      have hdecls := (nodup_of_idsFaults hids).1.map (Option.some_injective String)
      rw [List.map_map] at hdecls
      rw [ids_of_buildBlocks hrules h]
      exact hdecls
    refine List.inj_on_of_nodup_map hnodup hc hc' ?_
    rw [hb, hb', Option.map_some, Option.map_some, hid]

theorem sublist_of_choosePages {latinSquare : Bool} {groups : List (List PageDecl)}
    {chosen : List PageDecl}
    (h : choosePages o path latinSquare groups w = .ok (chosen, w')) :
    chosen.Sublist groups.flatten := by
  unfold choosePages at h
  split at h
  · have hselected := eq_ok_of_mapError_eq_ok h
    cases hsquare : selectLatinSquare groups o.assignment.version with
    | error cause =>
      rw [hsquare] at hselected
      cases hselected
    | ok pages =>
      rw [hsquare] at hselected
      cases hselected
      exact sublist_flatten_of_selectLatinSquare hsquare
  · exact sublist_flatten_of_selectRandomFrom 0 (eq_ok_of_mapError_eq_ok h)

/-- The pages that a block passes over are declared by it, in the same order. -/
theorem Chosen.sublist : ∀ {d : BlockDecl} {chosen : List PageDecl}, Chosen o d chosen →
    within s path d = [] → d.blocks = none → chosen.Sublist d.declaredPages
  | { toBlockHead := head, blocks := none }, chosen, h, hrules, _ => by
    cases lawful_of_within hrules with
    | pages hpages hgroups =>
      cases h with
      | pages h =>
        cases hpages.symm.trans h
        simp [BlockDecl.declaredPages, BlockDecl.content, hpages, hgroups]
      | groups h => cases hgroups.symm.trans h
    | @groups _ groups hpages hgroups =>
      cases h with
      | pages h => cases hpages.symm.trans h
      | groups h hchosen =>
        cases hgroups.symm.trans h
        have hdeclared : BlockDecl.declaredPages { toBlockHead := head, blocks := none } =
            groups.flatten := by
          simp only [BlockDecl.declaredPages, BlockDecl.content, hpages, hgroups]
        rw [hdeclared]
        exact sublist_of_choosePages hchosen

/-- The pages that a block passes over differ in their identifiers, which are plain. -/
theorem nodup_of_chosen {d : BlockDecl} {chosen : List PageDecl} (hrules : within s path d = [])
    (hblocks : d.blocks = none) (h : Chosen o d chosen) :
    (chosen.map (·.id)).Nodup ∧ ∀ p ∈ chosen, Path.PlainId p.id := by
  have hids := idsFaults_pages hrules
  have hsub := h.sublist hrules hblocks
  have hplain := List.forall_mem_map.1 (plain_of_idsFaults hids)
  exact ⟨(nodup_of_idsFaults hids).1.sublist (hsub.map _), fun p hp => hplain p (hsub.subset hp)⟩

theorem labels_of_buildLeaf {info : BlockInfo} {pseudorandom : Bool} {decls : List PageDecl}
    {number : Nat} (hdecls : (decls.map (·.id)).Nodup ∧ ∀ p ∈ decls, Path.PlainId p.id)
    (h : buildLeaf o info parent pseudorandom decls t w = .ok (number, t', w')) : Labels t t' := by
  unfold buildLeaf at h
  dsimp only at h
  split at h
  · cases h
    intro i b hi hb
    have hlt := lt_size_of_getElem? hb
    rw [Array.size_push] at hlt
    obtain rfl : i = t.size := by omega
    rw [Array.getElem?_push_size] at hb
    cases hb
    refine ⟨⟨nofun, nofun⟩, ?_, ?_⟩
    · show ∀ p ∈ decls.map (Page.ofDecl info.path), _
      exact List.forall_mem_map.2 fun p hp => ⟨hdecls.2 p hp, rfl⟩
    · show ((decls.map (Page.ofDecl info.path)).map (·.id)).Nodup
      rw [List.map_map]
      exact hdecls.1
  · cases h

mutual

theorem labels_of_buildBlock {parent : Option Nat} {path : Path} :
    ∀ {d : BlockDecl} {t t' : BlockTable} {w w' : Words} {number : Nat},
      within s path d = [] → buildBlock s o parent path d t w = .ok (number, t', w') →
      Labels t t'
  | { toBlockHead := head, blocks := none }, t, t', w, w', number, hrules, h => by
    rw [buildBlock] at h
    obtain ⟨info, hinfo, h⟩ := exists_of_bind_eq_ok h
    dsimp only at h
    split at h
    · rename_i pages hpages _
      exact labels_of_buildLeaf (nodup_of_chosen hrules rfl (Chosen.pages (o := o) hpages)) h
    · rename_i groups _ hgroups
      obtain ⟨⟨pages, w⟩, hchosen, h⟩ := exists_of_bind_eq_ok h
      exact labels_of_buildLeaf (nodup_of_chosen hrules rfl (.groups hgroups hchosen)) h
    · cases h
  | { toBlockHead := head, blocks := some blocks }, t, t', w, w', number, hrules, h => by
    rw [buildBlock] at h
    obtain ⟨info, hinfo, h⟩ := exists_of_bind_eq_ok h
    have hpath : info.path = path.child head.id := (eq_of_blockInfo hinfo).2.1
    dsimp only at h
    split at h
    · cases h
    · obtain ⟨⟨numbers, filled, w⟩, hfilled, h⟩ := exists_of_bind_eq_ok h
      obtain ⟨⟨order, w⟩, horder, h⟩ := exists_of_bind_eq_ok h
      cases h
      have hrest := withinAll_of_within hrules
      rw [hpath] at hfilled
      have hgrown := grown_of_buildBlocks hrest hfilled
      have hinside := labels_of_buildBlocks hrest hfilled
      have hsiblings := siblings_of_buildBlocks hrest (idsFaults_blocks hrules) hfilled
      have hpush : (t.push { info, parent, content := .blocks [], pass := .start [] }).size =
          t.size + 1 := Array.size_push ..
      have hlt : t.size < filled.size := by
        have hle := hgrown.size_le
        omega
      intro i b hi hb
      rcases cases_of_put (Array.getElem?_eq_getElem hlt) hb with ⟨rfl, rfl⟩ | ⟨hne, hb⟩
      · refine ⟨?_, nofun, List.nodup_nil⟩
        show Siblings _ info.path numbers
        rw [hpath]
        refine hsiblings.congr fun c hc hclt => ?_
        have houter := (hgrown.outer hc).1
        obtain ⟨d, hd⟩ := exists_of_lt_size hclt
        exact ⟨d, d, hd, (getElem?_put_of_ne (by omega)).trans hd, rfl⟩
      · refine labelled_congr (hinside i b (by omega) hb) fun c hc _ => ?_
        have hic := ((hgrown.begun (by omega) hb).inside hc).1
        exact getElem?_put_of_ne (by omega)

theorem labels_of_buildBlocks {parent : Option Nat} {path : Path} :
    ∀ {decls : List BlockDecl} {t t' : BlockTable} {w w' : Words} {numbers : List Nat},
      withinAll s path decls = [] →
      buildBlocks s o parent path decls t w = .ok (numbers, t', w') → Labels t t'
  | [], t, t', w, w', numbers, _, h => by
    rw [buildBlocks] at h
    cases h
    exact .nil t
  | d :: rest, t, t', w, w', numbers, hrules, h => by
    rw [withinAll] at hrules
    obtain ⟨hblock, hrest⟩ := List.append_eq_nil_iff.1 hrules
    rw [buildBlocks] at h
    obtain ⟨⟨number, t, w⟩, hfirst, h⟩ := exists_of_bind_eq_ok h
    obtain ⟨⟨numbers, t, w⟩, hothers, h⟩ := exists_of_bind_eq_ok h
    cases h
    exact (labels_of_buildBlock hblock hfirst).append (labels_of_buildBlocks hrest hothers)
      (grown_of_buildBlocks hrest hothers).same

end

end Experiment

end Trials
