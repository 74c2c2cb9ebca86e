import Trials.Proofs.Script.Pages
import Trials.Proofs.Experiment.Labels

/-!
# Built blocks and declared blocks

The blocks that building puts into a table are those that the script declares (`Mirrors`): each of
them is made of a declared block at its path (`BuiltFrom`), and shows pages that this block declares
(`StandsFor`); and each declared block is there.
-/

namespace Trials

namespace Experiment

open BlockTable Violation

variable {s : Script} {o : BuildOptions} {parent : Option Nat} {path : Path} {d : BlockDecl}
  {decls rest : List BlockDecl} {b : Block} {t t' t'' : BlockTable} {w w' : Words}

/-- A block stands for a block that is declared at a path. -/
structure StandsFor (s : Script) (path : Path) (d : BlockDecl) (b : Block) : Prop where
  info : blockInfo s path d.toBlockHead = .ok b.info
  pages : ∀ p ∈ b.content.shown, ∃ decl ∈ d.declaredPages, p = Page.ofDecl path decl

/-- A block is what building makes of one that is declared at a path. -/
structure BuiltFrom (s : Script) (o : BuildOptions) (path : Path) (d : BlockDecl) (b : Block) :
    Prop where
  info : blockInfo s path d.toBlockHead = .ok b.info
  leaf : d.blocks = none → ∃ chosen, Chosen o d chosen ∧
    b.content = .pages (chosen.map (Page.ofDecl path)) d.pseudorandom
  branch : d.blocks ≠ none → ∃ numbers, b.content = .blocks numbers

theorem BuiltFrom.standsFor {outer : Path} (h : BuiltFrom s o path d b)
    (hrules : within s outer d = []) : StandsFor s path d b := by
  refine ⟨h.info, ?_⟩
  by_cases hleaf : d.blocks = none
  · obtain ⟨chosen, hchosen, hcontent⟩ := h.leaf hleaf
    rw [hcontent]
    refine List.forall_mem_map.2 fun decl hdecl => ⟨decl, ?_, rfl⟩
    exact (hchosen.sublist hrules hleaf).subset hdecl
  · obtain ⟨numbers, hcontent⟩ := h.branch hleaf
    rw [hcontent]
    exact nofun

/-- The blocks that have been put into a table are made of those that some declarations declare
beneath a path, themselves or inside them. -/
structure Mirrors (s : Script) (o : BuildOptions) (path : Path) (decls : List BlockDecl)
    (t t' : BlockTable) : Prop where
  declared : ∀ {i : Nat} {b : Block}, t.size ≤ i → t'[i]? = some b →
    ∃ p d, Declares path decls p d ∧ BuiltFrom s o p d b
  built : ∀ {p : Path} {d : BlockDecl}, Declares path decls p d →
    ∃ i b, t.size ≤ i ∧ t'[i]? = some b ∧ BuiltFrom s o p d b

namespace Mirrors

theorem nil (s : Script) (o : BuildOptions) (path : Path) (t : BlockTable) : Mirrors s o path [] t t where
  declared := fun hi hb => absurd (lt_size_of_getElem? hb) (Nat.not_lt_of_le hi)
  built := fun h => absurd h Declares.not_nil

theorem cons (h : Mirrors s o path [d] t t') (hrest : Mirrors s o path rest t' t'')
    (hle : t.size ≤ t'.size) (hsame : ∀ {i : Nat}, i < t'.size → t''[i]? = t'[i]?) :
    Mirrors s o path (d :: rest) t t'' where
  declared := by
    intro i b hi hb
    by_cases hlt : i < t'.size
    · rw [hsame hlt] at hb
      obtain ⟨p, d', hd, hbuilt⟩ := h.declared hi hb
      exact ⟨p, d', (Declares.cons_iff rest).2 (.inl hd), hbuilt⟩
    · obtain ⟨p, d', hd, hbuilt⟩ := hrest.declared (Nat.le_of_not_lt hlt) hb
      exact ⟨p, d', (Declares.cons_iff rest).2 (.inr hd), hbuilt⟩
  built := by
    intro p d' hd
    obtain hd | hd := (Declares.cons_iff rest).1 hd
    · obtain ⟨i, b, hi, hb, hbuilt⟩ := h.built hd
      exact ⟨i, b, hi, (hsame (lt_size_of_getElem? hb)).trans hb, hbuilt⟩
    · obtain ⟨i, b, hi, hb, hbuilt⟩ := hrest.built hd
      exact ⟨i, b, Nat.le_trans hle hi, hb, hbuilt⟩

/-- A block that holds no other blocks is put in. -/
theorem push {head : BlockHead}
    (hb : BuiltFrom s o (path.child head.id) { toBlockHead := head, blocks := none } b) :
    Mirrors s o path [{ toBlockHead := head, blocks := none }] t (t.push b) where
  declared := by
    intro i d hi hd
    have hlt := lt_size_of_getElem? hd
    rw [Array.size_push] at hlt
    obtain rfl : i = t.size := by omega
    rw [Array.getElem?_push_size] at hd
    cases hd
    exact ⟨_, _, Declares.leaf_iff.2 ⟨rfl, rfl⟩, hb⟩
  built := by
    intro p d hd
    obtain ⟨rfl, rfl⟩ := Declares.leaf_iff.1 hd
    exact ⟨t.size, b, Nat.le_refl _, Array.getElem?_push_size, hb⟩

/-- A block is put in, then the blocks inside it, and then it is given these. -/
theorem put {head : BlockHead} {blocks : List BlockDecl} {empty full : Block}
    (h : Mirrors s o (path.child head.id) blocks (t.push empty) t') (hlt : t.size < t'.size)
    (hfull : BuiltFrom s o (path.child head.id) { toBlockHead := head, blocks := some blocks } full) :
    Mirrors s o path [{ toBlockHead := head, blocks := some blocks }] t (t'.put t.size full) where
  declared := by
    intro i b hi hb
    rcases cases_of_put (Array.getElem?_eq_getElem hlt) hb with ⟨rfl, rfl⟩ | ⟨hne, hb⟩
    · exact ⟨_, _, Declares.branch_iff.2 (.inl ⟨rfl, rfl⟩), hfull⟩
    · have hle : (t.push empty).size ≤ i := by
        rw [Array.size_push]
        omega
      obtain ⟨p, d, hd, hbuilt⟩ := h.declared hle hb
      exact ⟨p, d, Declares.branch_iff.2 (.inr hd), hbuilt⟩
  built := by
    intro p d hd
    obtain ⟨rfl, rfl⟩ | hd := Declares.branch_iff.1 hd
    · exact ⟨_, full, Nat.le_refl _, getElem?_put_self (Array.getElem?_eq_getElem hlt), hfull⟩
    · obtain ⟨i, b, hi, hb, hbuilt⟩ := h.built hd
      rw [Array.size_push] at hi
      exact ⟨i, b, by omega, (getElem?_put_of_ne (by omega)).trans hb, hbuilt⟩

end Mirrors

/-! ## Building -/

theorem mirrors_of_buildLeaf {head : BlockHead} {info : BlockInfo} {chosen : List PageDecl}
    {number : Nat} (hinfo : blockInfo s (path.child head.id) head = .ok info)
    (hchosen : Chosen o { toBlockHead := head, blocks := none } chosen)
    (h : buildLeaf o info parent head.pseudorandom chosen t w = .ok (number, t', w')) :
    Mirrors s o path [{ toBlockHead := head, blocks := none }] t t' := by
  have hpath := (eq_of_blockInfo hinfo).2.1
  unfold buildLeaf at h
  dsimp only at h
  split at h
  · cases h
    rw [hpath]
    exact .push ⟨hinfo, fun _ => ⟨chosen, hchosen, rfl⟩, fun hblocks => absurd rfl hblocks⟩
  · cases h

mutual

theorem mirrors_of_buildBlock {parent : Option Nat} {path : Path} :
    ∀ {d : BlockDecl} {t t' : BlockTable} {w w' : Words} {number : Nat},
      within s path d = [] → buildBlock s o parent path d t w = .ok (number, t', w') →
      Mirrors s o path [d] t t'
  | { toBlockHead := head, blocks := none }, t, t', w, w', number, hrules, h => by
    rw [buildBlock] at h
    obtain ⟨info, hinfo, h⟩ := exists_of_bind_eq_ok h
    dsimp only at h
    split at h
    · rename_i pages hpages _
      exact mirrors_of_buildLeaf hinfo (.pages hpages) h
    · rename_i groups _ hgroups
      obtain ⟨⟨pages, w⟩, hchosen, h⟩ := exists_of_bind_eq_ok h
      exact mirrors_of_buildLeaf hinfo (.groups hgroups hchosen) h
    · cases h
  | { toBlockHead := head, blocks := some blocks }, t, t', w, w', number, hrules, h => by
    rw [buildBlock] at h
    obtain ⟨info, hinfo, h⟩ := exists_of_bind_eq_ok h
    have hpath : info.path = path.child head.id := (eq_of_blockInfo hinfo).2.1
    dsimp only at h
    split at h
    · cases h
    · obtain ⟨⟨numbers, filled, w⟩, hfilled, h⟩ := exists_of_bind_eq_ok h
      obtain ⟨⟨order, w⟩, horder, h⟩ := exists_of_bind_eq_ok h
      cases h
      have hrest := withinAll_of_within hrules
      rw [hpath] at hfilled
      have hle := (grown_of_buildBlocks hrest hfilled).size_le
      rw [Array.size_push] at hle
      exact (mirrors_of_buildBlocks hrest hfilled).put hle ⟨hinfo, nofun, fun _ => ⟨numbers, rfl⟩⟩

theorem mirrors_of_buildBlocks {parent : Option Nat} {path : Path} :
    ∀ {decls : List BlockDecl} {t t' : BlockTable} {w w' : Words} {numbers : List Nat},
      withinAll s path decls = [] →
      buildBlocks s o parent path decls t w = .ok (numbers, t', w') → Mirrors s o path decls t t'
  | [], t, t', w, w', numbers, _, h => by
    rw [buildBlocks] at h
    cases h
    exact .nil s o path t
  | d :: rest, t, t', w, w', numbers, hrules, h => by
    rw [withinAll] at hrules
    obtain ⟨hblock, hrest⟩ := List.append_eq_nil_iff.1 hrules
    rw [buildBlocks] at h
    obtain ⟨⟨number, t, w⟩, hfirst, h⟩ := exists_of_bind_eq_ok h
    obtain ⟨⟨numbers, t, w⟩, hothers, h⟩ := exists_of_bind_eq_ok h
    cases h
    have hgrown := grown_of_buildBlocks hrest hothers
    exact (mirrors_of_buildBlock hblock hfirst).cons (mirrors_of_buildBlocks hrest hothers)
      (grown_of_buildBlock hblock hfirst).size_le hgrown.same

end

/-! ## Experiments -/

variable {start : Experiment}

theorem mirrors_of_build (hbuild : build s o w = .ok start) :
    Mirrors s o .root s.blocks #[] start.table := by
  obtain ⟨hrules, numbers, order, w', w'', hbuilt, -⟩ := exists_of_build hbuild
  exact mirrors_of_buildBlocks (List.append_eq_nil_iff.1 hrules).2 hbuilt

theorem standsFor_of_build (hbuild : build s o w = .ok start) (hd : s.Declares path d)
    (h : BuiltFrom s o path d b) : StandsFor s path d b := by
  obtain ⟨hrules, -⟩ := exists_of_build hbuild
  obtain ⟨outer, -, hwithin⟩ := hd.within_eq_nil (List.append_eq_nil_iff.1 hrules).2
  exact h.standsFor hwithin

theorem exists_declares_of_build (hbuild : build s o w = .ok start) {i : Nat}
    (hb : start.table[i]? = some b) :
    ∃ d, s.Declares b.info.path d ∧ StandsFor s b.info.path d b := by
  obtain ⟨path, d, hd, hfrom⟩ := (mirrors_of_build hbuild).declared (Nat.zero_le i) hb
  obtain rfl := (eq_of_blockInfo hfrom.info).2.1
  exact ⟨d, hd, standsFor_of_build hbuild hd hfrom⟩

/-- Of each declared block one has been made. -/
theorem exists_builtFrom_of_build (hbuild : build s o w = .ok start) (hd : s.Declares path d) :
    ∃ (i : Nat) (b : Block), start.table[i]? = some b ∧ b.info.path = path ∧
      BuiltFrom s o path d b := by
  obtain ⟨i, b, -, hb, hfrom⟩ := (mirrors_of_build hbuild).built hd
  exact ⟨i, b, hb, (eq_of_blockInfo hfrom.info).2.1, hfrom⟩

theorem exists_block_of_build (hbuild : build s o w = .ok start) (hd : s.Declares path d) :
    ∃ (i : Nat) (b : Block), start.table[i]? = some b ∧ b.info.path = path ∧
      StandsFor s path d b := by
  obtain ⟨i, b, hb, hpath, hfrom⟩ := exists_builtFrom_of_build hbuild hd
  exact ⟨i, b, hb, hpath, standsFor_of_build hbuild hd hfrom⟩

end Experiment

end Trials
