import Trials.Proofs.Order.Siblings
import Trials.Proofs.Experiment.LatinSquare
import Trials.Proofs.Experiment.Declarations

/-!
# The assignment has no part in what is random

Two experiments built from one script with the same random words, but for different assignments, are
counterparts (`Counterparts`): they draw the same words throughout, and differ only in the order of
counterbalanced siblings, in the pages that Latin squares take, and in the order of such pages where
it depends on their conditions.  What makes this go through is that no step of building draws more
or fewer words on account of the assignment: a shuffle draws as many as its list is long
(`Words.shuffle_snd`), whatever the list holds, a rotation draws none, and neither does a Latin
square.
-/

namespace Trials

/-! ## How many words are drawn -/

section

variable {α β : Type}

theorem Words.shuffleFrom_snd (i : Nat) (l : List α) (l' : List β) (w : Words) :
    (shuffleFrom i l w).2 = (shuffleFrom i l' w).2 := by
  induction i generalizing l l' w with
  | zero => rfl
  | succ i ih => exact ih _ _ _

/-- The words that a shuffle draws depend on nothing but the length of its list. -/
theorem Words.shuffle_snd {l : List α} {l' : List β} (h : l.length = l'.length) (w : Words) :
    (shuffle l w).2 = (shuffle l' w).2 := by
  rw [shuffle, shuffle, h]
  exact shuffleFrom_snd _ l l' w

/-- Whether equal conditions are kept apart or not, an order draws the words of one shuffle. -/
theorem Page.order_snd {pages : List Page} {pseudorandom : Bool} {window : Nat} {w : Words}
    {order : List Nat} (h : (Page.order pages pseudorandom window w).1 = .ok order) :
    (Page.order pages pseudorandom window w).2 = (w.shuffle (List.range pages.length)).2 := by
  cases pseudorandom with
  | false => rfl
  | true =>
    unfold Page.order orderSeparated at h ⊢
    rw [if_pos rfl] at h ⊢
    split_ifs at h ⊢ with huntagged
    have hlength : (List.range (pages.map (·.condition)).length).length =
        (List.range pages.length).length := by simp
    rw [← Words.shuffle_snd hlength w]

/-- A Latin square takes an element of each group. -/
theorem forall₂_of_selectLatinSquare {groups : List (List α)} {version : UInt32} {chosen : List α}
    (h : selectLatinSquare groups version = .ok chosen) :
    List.Forall₂ (· ∈ ·) chosen groups := by
  cases groups with
  | nil =>
    cases h
    exact .nil
  | cons first rest =>
    have hselect := h
    rw [selectLatinSquare] at h
    split_ifs at h with hempty huneven
    have hn : 0 < first.length := by
      rw [List.isEmpty_iff] at hempty
      exact List.length_pos_of_ne_nil hempty
    have heven : ∀ group ∈ first :: rest, group.length = first.length := by
      simpa using huneven
    obtain ⟨chosen', hchosen', hlength, hrow⟩ := exists_selectLatinSquare hn heven version
    cases hselect.symm.trans hchosen'
    refine List.forall₂_iff_get.2 ⟨hlength, fun row hlt hlt' => ?_⟩
    have hget := hrow (List.getElem?_eq_getElem hlt')
    rw [List.getElem?_eq_getElem hlt] at hget
    exact List.mem_of_getElem? hget.symm

end

namespace Experiment

open BlockTable Violation

variable {s : Script} {o o' : BuildOptions} {path : Path} {d : BlockDecl}
  {decls rest : List BlockDecl} {b b' : Block} {t t' u u' : BlockTable} {w w' w'' : Words}

/-! ## Counterparts -/

/-- The places of the counterbalanced ones among declared blocks. -/
def balancedSlots (decls : List BlockDecl) (counterbalance : List String) : List Nat :=
  Siblings.slots (decls.map (·.id)) counterbalance

/-- Pages that a block at a path shows stand each in the group beside it. -/
def ShownFrom (path : Path) : List Page → List (List PageDecl) → Prop :=
  List.Forall₂ fun page group => ∃ decl ∈ group, page = Page.ofDecl path decl

/-- Two blocks have been built for one declaration. -/
inductive Counterparts (d : BlockDecl) : Block → Block → Prop where
  /-- The same blocks run, in orders that differ in counterbalanced places only. -/
  | blocks {info : BlockInfo} {parent : Option Nat} {numbers order order' : List Nat}
    {decls : List BlockDecl} (hblocks : d.blocks = some decls)
    (horder : List.Forall₂ (SameOrBoth (· ∈ balancedSlots decls d.counterbalance)) order order') :
    Counterparts d ⟨info, parent, .blocks numbers, .start order⟩
      ⟨info, parent, .blocks numbers, .start order'⟩
  /-- The same pages are shown, in the same order. -/
  | pages (hblocks : d.blocks = none) (hlatin : d.groups = none ∨ d.latinSquare = false)
    (b : Block) : Counterparts d b b
  /-- A page of each group is shown, in the same order unless it depends on their conditions. -/
  | latinSquare {info : BlockInfo} {parent : Option Nat} {pages pages' : List Page}
    {order order' : List Nat} {groups : List (List PageDecl)} (hgroups : d.groups = some groups)
    (hlatin : d.latinSquare = true) (hpages : ShownFrom info.path pages groups)
    (hpages' : ShownFrom info.path pages' groups)
    (horder : d.pseudorandom = false → order' = order) :
    Counterparts d ⟨info, parent, .pages pages d.pseudorandom, .start order⟩
      ⟨info, parent, .pages pages' d.pseudorandom, .start order'⟩

/-- From a place on, the blocks of two tables have been built for the same declarations. -/
structure Alike (path : Path) (decls : List BlockDecl) (first : Nat) (t u : BlockTable) :
    Prop where
  size_eq : u.size = t.size
  counterparts : ∀ {i : Nat} {b b' : Block}, first ≤ i → t[i]? = some b → u[i]? = some b' →
    ∃ d, Declares path decls b.info.path d ∧ Counterparts d b b'

namespace Alike

theorem nil (path : Path) (h : u.size = t.size) : Alike path [] t.size t u where
  size_eq := h
  counterparts := fun hi hb _ => absurd (lt_size_of_getElem? hb) (Nat.not_lt_of_le hi)

/-- What is put in afterwards does not touch what has been put in first. -/
theorem cons {first : Nat} {t'' u'' : BlockTable} (h : Alike path [d] first t' u')
    (hrest : Alike path rest t'.size t'' u'')
    (hsame : ∀ {i : Nat}, i < t'.size → t''[i]? = t'[i]?)
    (hsame' : ∀ {i : Nat}, i < u'.size → u''[i]? = u'[i]?) :
    Alike path (d :: rest) first t'' u'' where
  size_eq := hrest.size_eq
  counterparts := by
    intro i b b' hi hb hb'
    by_cases hlt : i < t'.size
    · rw [hsame hlt] at hb
      rw [hsame' (h.size_eq ▸ hlt)] at hb'
      obtain ⟨d', hd', hcounterparts⟩ := h.counterparts hi hb hb'
      exact ⟨d', (Declares.cons_iff rest).2 (.inl hd'), hcounterparts⟩
    · obtain ⟨d', hd', hcounterparts⟩ := hrest.counterparts (Nat.le_of_not_lt hlt) hb hb'
      exact ⟨d', (Declares.cons_iff rest).2 (.inr hd'), hcounterparts⟩

/-- Counterparts that hold no other blocks are put in. -/
theorem push {head : BlockHead} (hsize : u.size = t.size)
    (hpath : b.info.path = path.child head.id)
    (h : Counterparts { toBlockHead := head, blocks := none } b b') :
    Alike path [{ toBlockHead := head, blocks := none }] t.size (t.push b) (u.push b') where
  size_eq := by rw [Array.size_push, Array.size_push, hsize]
  counterparts := by
    intro i c c' hi hc hc'
    have hlt := lt_size_of_getElem? hc
    rw [Array.size_push] at hlt
    obtain rfl : i = t.size := by omega
    rw [Array.getElem?_push_size] at hc
    rw [← hsize, Array.getElem?_push_size] at hc'
    cases hc
    cases hc'
    exact ⟨_, Declares.leaf_iff.2 ⟨hpath, rfl⟩, h⟩

/-- Counterparts are put in, then the blocks inside them, and then they are given these. -/
theorem put {head : BlockHead} {blocks : List BlockDecl} {empty : Block}
    (hinside : Alike (path.child head.id) blocks (t.push empty).size t' u')
    (hsize : u.size = t.size) (hlt : t.size < t'.size) (hpath : b.info.path = path.child head.id)
    (h : Counterparts { toBlockHead := head, blocks := some blocks } b b') :
    Alike path [{ toBlockHead := head, blocks := some blocks }] t.size (t'.put t.size b)
      (u'.put u.size b') where
  size_eq := by rw [size_put, size_put, hinside.size_eq]
  counterparts := by
    intro i c c' hi hc hc'
    have hlt' : t.size < u'.size := hinside.size_eq ▸ hlt
    rw [hsize] at hc'
    rcases cases_of_put (Array.getElem?_eq_getElem hlt) hc with ⟨rfl, rfl⟩ | ⟨hne, hc⟩
    · rw [getElem?_put_self (Array.getElem?_eq_getElem hlt')] at hc'
      cases hc'
      exact ⟨_, Declares.branch_iff.2 (.inl ⟨hpath, rfl⟩), h⟩
    · rw [getElem?_put_of_ne (Ne.symm hne)] at hc'
      have hle : (t.push empty).size ≤ i := by
        rw [Array.size_push]
        omega
      obtain ⟨d', hd', hcounterparts⟩ := hinside.counterparts hle hc hc'
      exact ⟨d', Declares.branch_iff.2 (.inr hd'), hcounterparts⟩

end Alike

/-! ## Building -/

theorem buildLeaf_eq_ok {info : BlockInfo} {parent : Option Nat} {pseudorandom : Bool}
    {number : Nat} {decls : List PageDecl}
    (h : buildLeaf o info parent pseudorandom decls t w = .ok (number, t', w')) :
    number = t.size ∧ w' = (w.shuffle (List.range decls.length)).2 ∧ ∃ order,
      (Page.order (decls.map (Page.ofDecl info.path)) pseudorandom o.window w).1 = .ok order ∧
      t' = t.push ⟨info, parent,
        .pages (decls.map (Page.ofDecl info.path)) pseudorandom, .start order⟩ := by
  unfold buildLeaf at h
  dsimp only at h
  split at h
  next order horder =>
    cases h
    refine ⟨rfl, ?_, order, horder, rfl⟩
    rw [Page.order_snd horder, List.length_map]
  · cases h

theorem alike_of_buildLeaf {head : BlockHead} {info : BlockInfo} {parent : Option Nat}
    {number number' : Nat} {decls : List PageDecl} (hsize : u.size = t.size)
    (hwindow : o'.window = o.window) (hpath : info.path = path.child head.id)
    (hlatin : head.groups = none ∨ head.latinSquare = false)
    (h : buildLeaf o info parent head.pseudorandom decls t w = .ok (number, t', w'))
    (h' : buildLeaf o' info parent head.pseudorandom decls u w = .ok (number', u', w'')) :
    number' = number ∧ w'' = w' ∧
      Alike path [{ toBlockHead := head, blocks := none }] t.size t' u' := by
  obtain ⟨hnumber, hw, order, horder, rfl⟩ := buildLeaf_eq_ok h
  obtain ⟨hnumber', hw', order', horder', rfl⟩ := buildLeaf_eq_ok h'
  rw [hwindow, horder] at horder'
  cases horder'
  exact ⟨by rw [hnumber, hnumber', hsize], by rw [hw, hw'],
    .push hsize hpath (.pages rfl hlatin _)⟩

/-- A Latin square takes a page of each group and draws nothing. -/
theorem forall₂_of_choosePages {groups : List (List PageDecl)} {chosen : List PageDecl}
    (h : choosePages o path true groups w = .ok (chosen, w')) :
    List.Forall₂ (· ∈ ·) chosen groups ∧ w' = w := by
  have hsquare := selectLatinSquare_of_choosePages h
  refine ⟨forall₂_of_selectLatinSquare hsquare, ?_⟩
  have h := eq_ok_of_mapError_eq_ok h
  rw [hsquare] at h
  cases h
  rfl

/-- For two Latin squares the same number of words is drawn. -/
theorem alike_of_latinSquare {head : BlockHead} {info : BlockInfo} {parent : Option Nat}
    {number number' : Nat} {groups : List (List PageDecl)} {chosen chosen' : List PageDecl}
    (hsize : u.size = t.size) (hpath : info.path = path.child head.id)
    (hgroups : head.groups = some groups) (hlatin : head.latinSquare = true)
    (hchosen : List.Forall₂ (· ∈ ·) chosen groups) (hchosen' : List.Forall₂ (· ∈ ·) chosen' groups)
    (h : buildLeaf o info parent head.pseudorandom chosen t w = .ok (number, t', w'))
    (h' : buildLeaf o' info parent head.pseudorandom chosen' u w = .ok (number', u', w'')) :
    number' = number ∧ w'' = w' ∧
      Alike path [{ toBlockHead := head, blocks := none }] t.size t' u' := by
  obtain ⟨hnumber, hw, order, horder, rfl⟩ := buildLeaf_eq_ok h
  obtain ⟨hnumber', hw', order', horder', rfl⟩ := buildLeaf_eq_ok h'
  have hlength : chosen'.length = chosen.length := by
    rw [hchosen.length_eq, hchosen'.length_eq]
  have hshown : ∀ {chosen : List PageDecl}, List.Forall₂ (· ∈ ·) chosen groups →
      ShownFrom info.path (chosen.map (Page.ofDecl info.path)) groups := fun h =>
    List.forall₂_map_left_iff.2 (h.imp fun decl group hmem => ⟨decl, hmem, rfl⟩)
  refine ⟨by rw [hnumber, hnumber', hsize], by rw [hw, hw', hlength], .push hsize hpath ?_⟩
  refine .latinSquare hgroups hlatin (hshown hchosen) (hshown hchosen') fun hfree => ?_
  -- without regard to conditions an order depends on the number of pages alone
  have hfree : head.pseudorandom = false := hfree
  rw [hfree] at horder horder'
  cases horder
  cases horder'
  simp only [List.length_map, hlength]

theorem idsOf_of_buildBlocks {parent : Option Nat} {numbers : List Nat}
    (hrules : withinAll s path decls = [])
    (h : buildBlocks s o parent path decls t w = .ok (numbers, t', w')) :
    idsOf t' numbers = decls.map (·.id) := by
  have hids := congrArg (List.map (·.getD "")) (ids_of_buildBlocks hrules h)
  rw [List.map_map, List.map_map] at hids
  exact hids

theorem forall₂_of_orderBlocks {exchangeable counterbalance : List String}
    {numbers order order' : List Nat} (hids : idsOf t numbers = decls.map (·.id))
    (hids' : idsOf u numbers = decls.map (·.id))
    (h : orderBlocks o exchangeable counterbalance t numbers w = .ok (order, w'))
    (h' : orderBlocks o' exchangeable counterbalance u numbers w = .ok (order', w'')) :
    w'' = w' ∧
      List.Forall₂ (SameOrBoth (· ∈ balancedSlots decls counterbalance)) order order' := by
  have h := eq_ok_of_mapError_eq_ok h
  have h' := eq_ok_of_mapError_eq_ok h'
  rw [hids] at h
  rw [hids'] at h'
  exact orderSiblings_agree h h' rfl rfl

mutual

theorem alike_of_buildBlock (hwindow : o'.window = o.window) {parent : Option Nat} {path : Path} :
    ∀ {d : BlockDecl} {t t' u u' : BlockTable} {w w' w'' : Words} {number number' : Nat},
      within s path d = [] → u.size = t.size →
      buildBlock s o parent path d t w = .ok (number, t', w') →
      buildBlock s o' parent path d u w = .ok (number', u', w'') →
      number' = number ∧ w'' = w' ∧ Alike path [d] t.size t' u'
  | { toBlockHead := head, blocks := none }, t, t', u, u', w, w', w'', number, number', hrules,
      hsize, h, h' => by
    obtain ⟨info, hinfo⟩ := exists_blockInfo hrules
    have hpath : info.path = path.child head.id := (eq_of_blockInfo hinfo).2.1
    rw [buildBlock, hinfo, ok_bind] at h h'
    cases lawful_of_within hrules with
    | pages hpages hgroups htagged =>
      have hgroups : head.groups = none := hgroups
      rw [hpages, hgroups] at h h'
      exact alike_of_buildLeaf hsize hwindow hpath (.inl hgroups) h h'
    | groups hpages hgroups hnonempty heven htagged =>
      rw [hpages, hgroups] at h h'
      obtain ⟨⟨chosen, w₁⟩, hchosen, h⟩ := exists_of_bind_eq_ok h
      obtain ⟨⟨chosen', w₁'⟩, hchosen', h'⟩ := exists_of_bind_eq_ok h'
      cases hlatin : head.latinSquare with
      | false =>
        rw [hlatin] at hchosen hchosen'
        cases hchosen.symm.trans hchosen'
        exact alike_of_buildLeaf hsize hwindow hpath (.inr hlatin) h h'
      | true =>
        rw [hlatin] at hchosen hchosen'
        obtain ⟨hmem, hw⟩ := forall₂_of_choosePages hchosen
        obtain ⟨hmem', hw'⟩ := forall₂_of_choosePages hchosen'
        rw [hw] at h
        rw [hw'] at h'
        exact alike_of_latinSquare hsize hpath hgroups hlatin hmem hmem' h h'
  | { toBlockHead := head, blocks := some blocks }, t, t', u, u', w, w', w'', number, number',
      hrules, hsize, h, h' => by
    obtain ⟨info, hinfo⟩ := exists_blockInfo hrules
    have hpath : info.path = path.child head.id := (eq_of_blockInfo hinfo).2.1
    rw [buildBlock, hinfo, ok_bind] at h h'
    cases lawful_of_within hrules with
    | blocks hpages hgroups _ _ _ hinside =>
      rw [hpages, hgroups, hpath] at h h'
      obtain ⟨⟨numbers, filled, w₁⟩, hfilled, h⟩ := exists_of_bind_eq_ok h
      obtain ⟨⟨order, w₂⟩, horder, h⟩ := exists_of_bind_eq_ok h
      obtain ⟨⟨numbers', filled', w₁'⟩, hfilled', h'⟩ := exists_of_bind_eq_ok h'
      obtain ⟨⟨order', w₂'⟩, horder', h'⟩ := exists_of_bind_eq_ok h'
      cases h
      cases h'
      have hpush : ∀ empty empty' : Block, (u.push empty').size = (t.push empty).size := by
        intro empty empty'
        rw [Array.size_push, Array.size_push, hsize]
      have hgrown := grown_of_buildBlocks hinside hfilled
      have hlt := hgrown.size_le
      rw [Array.size_push] at hlt
      rw [hsize] at hfilled'
      obtain ⟨rfl, rfl, halike⟩ :=
        alike_of_buildBlocks hwindow hinside (hpush _ _) hfilled hfilled'
      obtain ⟨rfl, hagree⟩ := forall₂_of_orderBlocks (idsOf_of_buildBlocks hinside hfilled)
        (idsOf_of_buildBlocks hinside hfilled') horder horder'
      exact ⟨hsize, rfl, halike.put hsize hlt hpath (.blocks rfl hagree)⟩

theorem alike_of_buildBlocks (hwindow : o'.window = o.window) {parent : Option Nat} {path : Path} :
    ∀ {decls : List BlockDecl} {t t' u u' : BlockTable} {w w' w'' : Words}
      {numbers numbers' : List Nat}, withinAll s path decls = [] → u.size = t.size →
      buildBlocks s o parent path decls t w = .ok (numbers, t', w') →
      buildBlocks s o' parent path decls u w = .ok (numbers', u', w'') →
      numbers' = numbers ∧ w'' = w' ∧ Alike path decls t.size t' u'
  | [], t, t', u, u', w, w', w'', numbers, numbers', _, hsize, h, h' => by
    rw [buildBlocks] at h h'
    cases h
    cases h'
    exact ⟨rfl, rfl, .nil path hsize⟩
  | d :: rest, t, t', u, u', w, w', w'', numbers, numbers', hrules, hsize, h, h' => by
    rw [withinAll] at hrules
    obtain ⟨hblock, hrest⟩ := List.append_eq_nil_iff.1 hrules
    rw [buildBlocks] at h h'
    obtain ⟨⟨number, t₁, w₁⟩, hfirst, h⟩ := exists_of_bind_eq_ok h
    obtain ⟨⟨others, t₂, w₂⟩, hothers, h⟩ := exists_of_bind_eq_ok h
    obtain ⟨⟨number', u₁, w₁'⟩, hfirst', h'⟩ := exists_of_bind_eq_ok h'
    obtain ⟨⟨others', u₂, w₂'⟩, hothers', h'⟩ := exists_of_bind_eq_ok h'
    cases h
    cases h'
    obtain ⟨rfl, rfl, halike⟩ := alike_of_buildBlock hwindow hblock hsize hfirst hfirst'
    obtain ⟨rfl, rfl, halikes⟩ :=
      alike_of_buildBlocks hwindow hrest halike.size_eq hothers hothers'
    exact ⟨rfl, rfl, halike.cons halikes (grown_of_buildBlocks hrest hothers).same
      (grown_of_buildBlocks hrest hothers').same⟩

end

/-! ## The main result -/

/-- A top-level block is one that the script counterbalances. -/
def Balanced (s : Script) (t : BlockTable) (i : Nat) : Prop :=
  ∃ b, t[i]? = some b ∧ b.info.id ∈ s.counterbalance

/-- Two experiments have been built alike for different assignments. -/
structure BuiltAlike (s : Script) (e e' : Experiment) : Prop where
  /-- They have drawn the same words and differ in nothing but their blocks. -/
  rest_eq : e' = { e with assignment := e'.assignment, table := e'.table, roots := e'.roots }
  size_eq : e'.table.size = e.table.size
  /-- The blocks with the same number have been built for the same declaration. -/
  counterparts : ∀ {i : Nat} {b b' : Block}, e.table[i]? = some b → e'.table[i]? = some b' →
    ∃ d, s.Declares b.info.path d ∧ Counterparts d b b'
  /-- The same top-level blocks run, in orders that differ in counterbalanced places only. -/
  roots : List.Forall₂ (SameOrBoth (Balanced s e.table)) e.roots e'.roots

theorem forall₂_filterMap {α β : Type} {f : α → Option β} {p : α → Prop} {q : β → Prop}
    {l l' : List α} (h : List.Forall₂ (SameOrBoth p) l l') (hf : ∀ a ∈ l, ∃ b, f a = some b)
    (hp : ∀ a, p a → ∃ b, f a = some b ∧ q b) :
    List.Forall₂ (SameOrBoth q) (l.filterMap f) (l'.filterMap f) := by
  induction h with
  | nil => exact .nil
  | cons hab _ ih =>
    obtain ⟨⟨b, hb⟩, hf⟩ := List.forall_mem_cons.1 hf
    rcases hab with rfl | ⟨ha, ha'⟩
    · rw [List.filterMap_cons_some hb, List.filterMap_cons_some hb]
      exact .cons (.inl rfl) (ih hf)
    · obtain ⟨c, hc, hq⟩ := hp _ ha
      obtain ⟨c', hc', hq'⟩ := hp _ ha'
      rw [List.filterMap_cons_some hc, List.filterMap_cons_some hc']
      exact .cons (.inr ⟨hq, hq'⟩) (ih hf)

/-- A counterbalanced place is that of a block that is counterbalanced. -/
theorem exists_balanced {parent : Option Nat} {numbers : List Nat}
    (hrules : withinAll s path decls = [])
    (h : buildBlocks s o parent path decls t w = .ok (numbers, t', w')) {place : Nat}
    (hplace : place ∈ balancedSlots decls s.counterbalance) :
    ∃ number, numbers[place]? = some number ∧ Balanced s t' number := by
  obtain ⟨id, hid, hmem⟩ := Siblings.mem_slots_iff.1 hplace
  rw [List.getElem?_map, Option.map_eq_some_iff] at hid
  obtain ⟨d, hd, rfl⟩ := hid
  have hids := congrArg (·[place]?) (ids_of_buildBlocks hrules h)
  simp only [List.getElem?_map, hd, Option.map_some] at hids
  obtain ⟨number, hnumber, hb⟩ := Option.map_eq_some_iff.1 hids
  obtain ⟨b, hb, hbid⟩ := Option.map_eq_some_iff.1 hb
  exact ⟨number, hnumber, b, hb, hbid ▸ hmem⟩

/-- Whatever the assignments, two experiments built from one script with the same random words are
alike: what is drawn at random is the same in both. -/
theorem randomness_independent_of_assignment {e e' : Experiment} (h : build s o w = .ok e)
    (h' : build s o' w = .ok e') (hwindow : o'.window = o.window) : BuiltAlike s e e' := by
  obtain ⟨hrules, numbers, order, w₁, w₂, hbuilt, horder, he⟩ := exists_of_build h
  obtain ⟨-, numbers', order', w₁', w₂', hbuilt', horder', he'⟩ := exists_of_build h'
  have hrest := (List.append_eq_nil_iff.1 hrules).2
  obtain ⟨rfl, rfl, halike⟩ := alike_of_buildBlocks hwindow hrest rfl hbuilt hbuilt'
  obtain ⟨rfl, hagree⟩ := forall₂_of_orderBlocks (idsOf_of_buildBlocks hrest hbuilt)
    (idsOf_of_buildBlocks hrest hbuilt') horder horder'
  refine ⟨?_, halike.size_eq, halike.counterparts (Nat.zero_le _), ?_⟩
  · rw [he, he', hwindow]
  · rw [he, he']
    refine forall₂_filterMap hagree (fun place hplace => ?_) fun place =>
      exists_balanced hrest hbuilt
    have hlt := List.mem_range.1 ((perm_of_orderBlocks horder).mem_iff.1 hplace)
    exact ⟨_, List.getElem?_eq_getElem hlt⟩

/-- Two blocks that are counterbalanced, and one that stays behind them. -/
def rotating : Script where
  counterbalance := ["a", "b"]
  blocks := [
    { id := "a", pages := some [{ id := "p" }] },
    { id := "b", pages := some [{ id := "q" }] },
    { id := "end", pages := some [{ id := "r" }] }]

/-- For another permutation the two blocks change places. -/
theorem rotating_built_alike :
    ∃ e e', build rotating {} (Words.ofSeed 0) = .ok e ∧
      build rotating { assignment := ⟨0, 1⟩ } (Words.ofSeed 0) = .ok e' ∧
      e.roots = [0, 1, 2] ∧ e'.roots = [1, 0, 2] ∧ BuiltAlike rotating e e' := by
  obtain ⟨e, e', h, h', hroots, hroots'⟩ : ∃ e e', build rotating {} (Words.ofSeed 0) = .ok e ∧
      build rotating { assignment := ⟨0, 1⟩ } (Words.ofSeed 0) = .ok e' ∧
      e.roots = [0, 1, 2] ∧ e'.roots = [1, 0, 2] := ⟨_, _, rfl, rfl, rfl, rfl⟩
  exact ⟨e, e', h, h', hroots, hroots', randomness_independent_of_assignment h h' rfl⟩

end Experiment

end Trials
