import Trials.Proofs.Experiment.Building
import Trials.Proofs.Order.Separated
import Trials.Proofs.Selection

/-!
# Building from scripts that break no rule

Building goes through the blocks of a script once more, and each of its steps could fail.  In a
script that breaks no rule only one of them does: drawing an order in which pages of the same
condition are kept apart (`Unplaced`).  `FailsOnly` carries this through the steps.
-/

namespace Trials

namespace Experiment

open BlockTable Violation

variable {s : Script} {o : BuildOptions} {parent : Option Nat} {path : Path}

/-- The pages that a block passes over: those it declares, or one of each of its groups. -/
inductive Chosen (o : BuildOptions) (d : BlockDecl) : List PageDecl → Prop where
  | pages {pages : List PageDecl} (h : d.pages = some pages) : Chosen o d pages
  | groups {groups : List (List PageDecl)} {path : Path} {w w' : Words} {chosen : List PageDecl}
    (hgroups : d.groups = some groups)
    (h : choosePages o path d.latinSquare groups w = .ok (chosen, w')) : Chosen o d chosen

/-- No order has been found for the pages of a declared block that are to be kept apart. -/
def Unplaced (o : BuildOptions) (parent : Path) (decls : List BlockDecl) (e : ScriptError) : Prop :=
  ∃ path d chosen w, Declares parent decls path d ∧ d.pseudorandom = true ∧ Chosen o d chosen ∧
    (orderSeparated (chosen.map (·.condition)) o.window w).1 = .error .exhausted ∧
    e = .order path .exhausted

theorem Unplaced.mono {decls decls' : List BlockDecl} {e : ScriptError}
    (h : Unplaced o path decls e) (hsub : decls ⊆ decls') : Unplaced o path decls' e := by
  obtain ⟨path', d, chosen, w, hd, h⟩ := h
  exact ⟨path', d, chosen, w, hd.mono hsub, h⟩

theorem Unplaced.inside {head : BlockHead} {blocks : List BlockDecl} {e : ScriptError}
    (h : Unplaced o (path.child head.id) blocks e) :
    Unplaced o path [{ toBlockHead := head, blocks := some blocks }] e := by
  obtain ⟨path', d, chosen, w, hd, h⟩ := h
  exact ⟨path', d, chosen, w, .inside (List.mem_singleton_self _) hd, h⟩

/-! ## The steps -/

theorem exists_resolvePage {page : String} (h : ruleFaults.unresolved s page = []) :
    ∃ path, s.resolvePage page = .ok path := by
  unfold ruleFaults.unresolved at h
  split at h
  next path hpath => exact ⟨path, hpath⟩
  · cases h

theorem exists_ofRule {rule : Option RunRule} (h : rule.toList.flatMap (ruleFaults s) = []) :
    ∃ runIf, RunIf.ofRule s.resolvePage .badPattern rule = .ok runIf := by
  cases rule with
  | none => exact ⟨_, rfl⟩
  | some rule =>
    have h : ruleFaults s rule = [] := by simpa using h
    cases rule with
    | permutation values => exact ⟨_, rfl⟩
    | selected page option =>
      obtain ⟨path, hpath⟩ := exists_resolvePage h
      exact ⟨_, by rw [RunIf.ofRule, hpath]; rfl⟩
    | matched page pattern =>
      obtain ⟨hpattern, hpage⟩ := List.append_eq_nil_iff.1 h
      obtain ⟨path, hpath⟩ := exists_resolvePage hpage
      split at hpattern
      next program hprogram => exact ⟨_, by rw [RunIf.ofRule, hpath, ok_bind, hprogram]; rfl⟩
      · cases hpattern

theorem exists_blockInfo {d : BlockDecl} (h : within s path d = []) :
    ∃ info, blockInfo s (path.child d.id) d.toBlockHead = .ok info := by
  have hhead := List.append_eq_nil_iff.1 (headFaults_eq_nil h)
  obtain ⟨runIf, hrunIf⟩ := exists_ofRule (List.map_eq_nil_iff.1 hhead.2)
  exact ⟨_, by rw [blockInfo, hrunIf]; rfl⟩

theorem exists_choosePages {latinSquare : Bool} {groups : List (List PageDecl)}
    (hnonempty : ∀ group ∈ groups, group ≠ [])
    (heven : latinSquare = true → ∀ a ∈ groups, ∀ b ∈ groups, a.length = b.length) (w : Words) :
    ∃ chosen w', choosePages o path latinSquare groups w = .ok (chosen, w') ∧
      ∀ page ∈ chosen, page ∈ groups.flatten := by
  unfold choosePages
  cases latinSquare with
  | false =>
    obtain ⟨chosen, w', hchosen, -, hmem⟩ := exists_selectRandom hnonempty w
    exact ⟨chosen, w', by rw [hchosen]; rfl, hmem⟩
  | true =>
    obtain ⟨chosen, hchosen⟩ :=
      exists_selectLatinSquare_of_even hnonempty (heven rfl) o.assignment.version
    exact ⟨chosen, w, by rw [hchosen]; rfl, mem_flatten_of_selectLatinSquare hchosen⟩

theorem exists_orderBlocks {exchangeable counterbalance : List String}
    (hapart : ∀ id ∈ exchangeable, id ∉ counterbalance) (t : BlockTable) (numbers : List Nat)
    (w : Words) :
    ∃ order w', orderBlocks o exchangeable counterbalance t numbers w = .ok (order, w') := by
  have hnone : (idsOf t numbers).find? (fun id =>
      exchangeable.contains id && counterbalance.contains id) = none := by
    rw [List.find?_eq_none]
    intro id _ hboth
    rw [Bool.and_eq_true, List.contains_iff_mem, List.contains_iff_mem] at hboth
    exact hapart id hboth.1 hboth.2
  simp only [orderBlocks, orderSiblings, hnone]
  exact ⟨_, _, rfl⟩

/-- Of the pages only the conditions matter for keeping them apart. -/
theorem order_ofDecl (path : Path) (decls : List PageDecl) (window : Nat) (w : Words) :
    Page.order (decls.map (Page.ofDecl path)) true window w =
      orderSeparated (decls.map (·.condition)) window w := by
  rw [Page.order, if_pos rfl, List.map_map]
  rfl

theorem buildLeaf_eq_error {info : BlockInfo} {decls : List PageDecl} {w : Words}
    {cause : OrderError}
    (h : (orderSeparated (decls.map (·.condition)) o.window w).1 = .error cause) (t : BlockTable) :
    buildLeaf o info parent true decls t w = .error (.order info.path cause) := by
  rw [buildLeaf, order_ofDecl, h]

/-- A block of pages fails only if its pages cannot be kept apart. -/
theorem failsOnly_buildLeaf {info : BlockInfo} {pseudorandom : Bool} {decls : List PageDecl}
    (htagged : pseudorandom = true → ∀ page ∈ decls, page.condition ≠ none) (t : BlockTable)
    (w : Words) :
    FailsOnly (fun e => pseudorandom = true ∧ e = .order info.path .exhausted ∧
        (orderSeparated (decls.map (·.condition)) o.window w).1 = .error .exhausted)
      (buildLeaf o info parent pseudorandom decls t w) := by
  intro e he
  cases pseudorandom with
  | false => cases he
  | true =>
    have hnone : none ∉ decls.map (·.condition) := by
      intro hmem
      obtain ⟨page, hpage, hcondition⟩ := List.mem_map.1 hmem
      exact htagged rfl page hpage hcondition
    rcases orderSeparated_cases hnone o.window w with ⟨order, horder⟩ | herror
    · rw [buildLeaf, order_ofDecl, horder] at he
      cases he
    · rw [buildLeaf_eq_error herror] at he
      cases he
      exact ⟨rfl, rfl, herror⟩

mutual

theorem failsOnly_buildBlock {parent : Option Nat} {path : Path} :
    ∀ {d : BlockDecl}, within s path d = [] → ∀ (t : BlockTable) (w : Words),
      FailsOnly (Unplaced o path [d]) (buildBlock s o parent path d t w)
  | { toBlockHead := head, blocks := none }, hrules, t, w => by
    obtain ⟨info, hinfo⟩ := exists_blockInfo hrules
    have hpath := (eq_of_blockInfo hinfo).2.1
    have hleaf : ∀ {chosen : List PageDecl},
        Chosen o { toBlockHead := head, blocks := none } chosen →
        (head.pseudorandom = true → ∀ page ∈ chosen, page.condition ≠ none) →
        ∀ w, FailsOnly (Unplaced o path [{ toBlockHead := head, blocks := none }])
          (buildLeaf o info parent head.pseudorandom chosen t w) := by
      intro chosen hchosen htagged w
      refine (failsOnly_buildLeaf htagged t w).mono ?_
      rintro e ⟨hpseudorandom, rfl, herror⟩
      have hd := List.mem_singleton_self ({ toBlockHead := head, blocks := none } : BlockDecl)
      rw [hpath]
      exact ⟨_, _, chosen, w, .here hd, hpseudorandom, hchosen, herror, rfl⟩
    rw [buildBlock, hinfo, ok_bind]
    cases lawful_of_within hrules with
    | pages hpages hgroups htagged =>
      rw [hpages, hgroups]
      exact hleaf (.pages hpages) htagged w
    | groups hpages hgroups hnonempty heven htagged =>
      obtain ⟨chosen, w', hchosen, hmem⟩ := exists_choosePages hnonempty heven w
      rw [hpages, hgroups]
      dsimp only
      rw [hchosen]
      refine hleaf (.groups hgroups hchosen) (fun hpseudorandom page hpage => ?_) w'
      exact htagged hpseudorandom page (hmem page hpage)
  | { toBlockHead := head, blocks := some blocks }, hrules, t, w => by
    obtain ⟨info, hinfo⟩ := exists_blockInfo hrules
    have hpath := (eq_of_blockInfo hinfo).2.1
    rw [buildBlock, hinfo, ok_bind]
    cases lawful_of_within hrules with
    | blocks hpages hgroups _ _ hapart hinside =>
      rw [hpages, hgroups, hpath]
      refine FailsOnly.bind ((failsOnly_buildBlocks hinside _ w).mono fun e => Unplaced.inside) ?_
      rintro ⟨numbers, filled, w'⟩ -
      obtain ⟨order, w'', horder⟩ := exists_orderBlocks hapart filled numbers w'
      dsimp only
      rw [horder]
      exact FailsOnly.ok _

theorem failsOnly_buildBlocks {parent : Option Nat} {path : Path} :
    ∀ {decls : List BlockDecl}, withinAll s path decls = [] → ∀ (t : BlockTable) (w : Words),
      FailsOnly (Unplaced o path decls) (buildBlocks s o parent path decls t w)
  | [], _, t, w => by
    rw [buildBlocks]
    exact FailsOnly.ok _
  | d :: rest, hrules, t, w => by
    rw [withinAll] at hrules
    obtain ⟨hfirst, hrest⟩ := List.append_eq_nil_iff.1 hrules
    rw [buildBlocks]
    refine FailsOnly.bind ((failsOnly_buildBlock hfirst t w).mono fun e he => ?_) ?_
    · exact he.mono (by simp)
    rintro ⟨number, t', w'⟩ -
    refine FailsOnly.bind ((failsOnly_buildBlocks hrest t' w').mono fun e he => ?_) ?_
    · exact he.mono (by simp)
    · exact fun _ _ => FailsOnly.ok _

end

/-- In a script that breaks no rule, building fails only if pages cannot be kept apart. -/
theorem failsOnly_build (hwindow : o.window ≠ 0) (hrules : s.violations = []) (w : Words) :
    FailsOnly (Unplaced o .root s.blocks) (build s o w) := by
  obtain ⟨hsiblings, hblocks⟩ := List.append_eq_nil_iff.1 hrules
  have hsets := (List.append_eq_nil_iff.1 (List.map_eq_nil_iff.1 hsiblings)).2
  rw [build_eq hwindow hrules]
  refine FailsOnly.bind (failsOnly_buildBlocks hblocks _ w) ?_
  rintro ⟨numbers, table, w'⟩ -
  obtain ⟨order, w'', horder⟩ :=
    exists_orderBlocks (fun id hid => not_mem_both hsets hid) table numbers w'
  dsimp only
  rw [horder]
  exact FailsOnly.ok _

/-! ## Looking things up -/

theorem exists_of_buildLeaf {info : BlockInfo} {pseudorandom : Bool} {decls : List PageDecl}
    {t t' : BlockTable} {w w' : Words} {number : Nat}
    (h : buildLeaf o info parent pseudorandom decls t w = .ok (number, t', w')) :
    ∃ b, t'[number]? = some b ∧ b.info = info := by
  unfold buildLeaf at h
  dsimp only at h
  split at h
  · cases h
    exact ⟨_, Array.getElem?_push_size, rfl⟩
  · cases h

/-- A block that has been built is found under its number, with its identifier and its path. -/
theorem exists_of_buildBlock {t t' : BlockTable} {w w' : Words} {number : Nat} :
    ∀ {d : BlockDecl}, within s path d = [] →
      buildBlock s o parent path d t w = .ok (number, t', w') →
      ∃ b, t'[number]? = some b ∧ b.info.id = d.id ∧ b.info.path = path.child d.id
  | { toBlockHead := head, blocks := none }, hrules, h => by
    obtain ⟨info, hinfo⟩ := exists_blockInfo hrules
    obtain ⟨hid, hpath, -⟩ := eq_of_blockInfo hinfo
    have hfound : ∃ b, t'[number]? = some b ∧ b.info = info := by
      rw [buildBlock, hinfo, ok_bind] at h
      split at h
      · exact exists_of_buildLeaf h
      · obtain ⟨⟨pages, w⟩, -, h⟩ := exists_of_bind_eq_ok h
        exact exists_of_buildLeaf h
      · cases h
    obtain ⟨b, hb, rfl⟩ := hfound
    exact ⟨b, hb, hid, hpath⟩
  | { toBlockHead := head, blocks := some blocks }, hrules, h => by
    obtain ⟨info, hinfo⟩ := exists_blockInfo hrules
    obtain ⟨hid, hpath, -⟩ := eq_of_blockInfo hinfo
    have hlt := (grown_of_buildBlock hrules h).lt_size (List.mem_singleton_self number)
    rw [buildBlock, hinfo, ok_bind] at h
    dsimp only at h
    split at h
    · cases h
    · obtain ⟨⟨numbers, filled, w⟩, -, h⟩ := exists_of_bind_eq_ok h
      obtain ⟨⟨order, w⟩, -, h⟩ := exists_of_bind_eq_ok h
      cases h
      rw [size_put] at hlt
      exact ⟨_, getElem?_put_self (Array.getElem?_eq_getElem hlt), hid, hpath⟩

/-- Siblings that have been built are found under their numbers, in declared order. -/
theorem exists_of_buildBlocks {decls : List BlockDecl} {t t' : BlockTable} {w w' : Words}
    {numbers : List Nat} (hrules : withinAll s path decls = [])
    (h : buildBlocks s o parent path decls t w = .ok (numbers, t', w')) :
    List.Forall₂ (fun number d => ∃ b, t'[number]? = some b ∧ b.info.id = d.id ∧
      b.info.path = path.child d.id) numbers decls := by
  induction decls generalizing t w numbers with
  | nil =>
    rw [buildBlocks] at h
    cases h
    exact .nil
  | cons d rest ih =>
    rw [withinAll] at hrules
    obtain ⟨hblock, hrest⟩ := List.append_eq_nil_iff.1 hrules
    rw [buildBlocks] at h
    obtain ⟨⟨number, t₁, w₁⟩, hfirst, h⟩ := exists_of_bind_eq_ok h
    obtain ⟨⟨others, t₂, w₂⟩, hothers, h⟩ := exists_of_bind_eq_ok h
    cases h
    obtain ⟨b, hb, hlabel⟩ := exists_of_buildBlock hblock hfirst
    have hsame := (grown_of_buildBlocks hrest hothers).same (lt_size_of_getElem? hb)
    exact .cons ⟨b, hsame.trans hb, hlabel⟩ (ih hrest hothers)

theorem ids_of_buildBlocks {decls : List BlockDecl} {t t' : BlockTable} {w w' : Words}
    {numbers : List Nat} (hrules : withinAll s path decls = [])
    (h : buildBlocks s o parent path decls t w = .ok (numbers, t', w')) :
    (numbers.map fun number => (t'[number]?).map (·.info.id)) = decls.map fun d => some d.id := by
  have hfound := exists_of_buildBlocks hrules h
  clear h hrules
  induction hfound with
  | nil => rfl
  | cons hfirst _ ih =>
    obtain ⟨b, hb, hid, -⟩ := hfirst
    rw [List.map_cons, List.map_cons, hb, ih, Option.map_some, hid]

/-- Whatever is looked up in building an experiment is there. -/
structure InRange (s : Script) (o : BuildOptions) : Prop where
  /-- A Latin square reads columns that the groups have. -/
  column : ∀ {path : Path} {d : BlockDecl} {groups : List (List PageDecl)}, s.Declares path d →
    d.groups = some groups → d.latinSquare = true → ∀ {row : Nat} {group : List PageDecl},
    groups[row]? = some group →
    latinColumn (groups.headD []).length row o.assignment.version < group.length
  /-- Siblings are found under their numbers, and the block around them stands in the table. -/
  siblings : ∀ {path : Path} {decls : List BlockDecl} {parent : Option Nat} {t t' : BlockTable}
    {w w' : Words} {numbers : List Nat}, s.Siblings path decls →
    buildBlocks s o parent path decls t w = .ok (numbers, t', w') → t.size ≤ t'.size ∧
      (numbers.map fun number => (t'[number]?).map (·.info.id)) = decls.map fun d => some d.id
  /-- The order of siblings is one of their places. -/
  places : ∀ {exchangeable counterbalance : List String} {t : BlockTable} {numbers order : List Nat}
    {w w' : Words}, orderBlocks o exchangeable counterbalance t numbers w = .ok (order, w') →
    ∀ place ∈ order, place < numbers.length
  /-- Siblings that change places stand in slots among their places. -/
  slots : ∀ {ids set : List String}, ∀ slot ∈ Siblings.slots ids set, slot < ids.length
  /-- A rotation reads slots that there are. -/
  rotation : ∀ {slots : List Nat} {shift : Nat}, ∀ p ∈ Siblings.rotation slots shift, p.1 ∈ slots
  /-- Pages are kept apart by the conditions of pages, whatever would be found elsewhere. -/
  conditions : ∀ {conditions : List (Option Condition)}
    {condition : Nat → Option (Option Condition)} (w : Words),
    (∀ i < conditions.length, condition i = conditions[i]?) →
    Separated.placeAll condition o.window [] (w.shuffle (List.range conditions.length)).1 =
      Separated.placeAll (fun i => conditions[i]?) o.window []
        (w.shuffle (List.range conditions.length)).1
  /-- A page is swapped in where one has been placed. -/
  target : ∀ {condition : Nat → Option (Option Condition)} {placed : List Nat} {next i : Nat},
    Separated.swapTarget condition o.window placed next = some i → i < placed.length
  /-- The order of pages is one of their places. -/
  pages : ∀ {pages : List Page} {pseudorandom : Bool} {w : Words} {order : List Nat},
    (Page.order pages pseudorandom o.window w).1 = .ok order → ∀ place ∈ order, place < pages.length

theorem latinColumn_lt_length {d : BlockDecl} (h : Lawful s path d)
    {groups : List (List PageDecl)} (hgroups : d.groups = some groups)
    (hlatin : d.latinSquare = true) {row : Nat} {group : List PageDecl}
    (hgroup : groups[row]? = some group) (version : UInt32) :
    latinColumn (groups.headD []).length row version < group.length := by
  have hmem := List.mem_of_getElem? hgroup
  cases h with
  | blocks _ hnone => cases hgroups.symm.trans hnone
  | pages _ hnone => cases hgroups.symm.trans hnone
  | groups _ hsome hnonempty heven =>
    cases hsome.symm.trans hgroups
    cases groups with
    | nil => cases hmem
    | cons first rest =>
      rw [List.headD_cons, heven hlatin group hmem first List.mem_cons_self]
      have hfirst := List.length_pos_of_ne_nil (hnonempty first List.mem_cons_self)
      exact latinColumn_lt hfirst row version

theorem inRange (hrules : s.violations = []) (o : BuildOptions) : InRange s o where
  column := by
    intro path d groups hd hgroups hlatin row group hgroup
    obtain ⟨outer, -, hwithin⟩ := hd.within_eq_nil (List.append_eq_nil_iff.1 hrules).2
    exact latinColumn_lt_length (lawful_of_within hwithin) hgroups hlatin hgroup _
  siblings := by
    intro path decls parent t t' w w' numbers hdecls h
    have hwithin := hdecls.withinAll_eq_nil (List.append_eq_nil_iff.1 hrules).2
    exact ⟨(grown_of_buildBlocks hwithin h).size_le, ids_of_buildBlocks hwithin h⟩
  places := fun h place hplace => List.mem_range.1 ((perm_of_orderBlocks h).mem_iff.1 hplace)
  slots := fun _ => Siblings.lt_of_mem_slots
  rotation := by
    intro slots shift p hp
    have hmem := List.mem_map_of_mem (f := (·.1)) hp
    rw [Siblings.map_fst_rotation, List.mem_rotate] at hmem
    exact hmem
  conditions := by
    intro conditions condition w h
    refine Separated.placeAll_congr fun i hi => h i ?_
    exact List.mem_range.1 ((Words.shuffle_perm _ w).mem_iff.1 hi)
  target := Separated.lt_of_swapTarget
  pages := fun h place hplace => List.mem_range.1 ((Page.perm_of_order h).mem_iff.1 hplace)

/-! ## The main result -/

/-- From a script that breaks no rule an experiment is built, whatever the assignment and the random
words, unless the pages of a declared block that are to be kept apart cannot be; so it always is
where no block asks for that.  Whatever is looked up in building is there. -/
theorem exists_build_or_exhausted (hrules : s.violations = []) (hwindow : o.window ≠ 0) :
    InRange s o ∧ ∀ w : Words,
      ((∃ e, build s o w = .ok e) ∨ ∃ path d, s.Declares path d ∧ d.pseudorandom = true ∧
        build s o w = .error (.order path .exhausted) ∧
        (ScriptError.order path .exhausted).cause =
          path.text ++ ": " ++ OrderError.exhausted.message) ∧
      ((∀ path d, s.Declares path d → d.pseudorandom = false) → ∃ e, build s o w = .ok e) := by
  refine ⟨inRange hrules o, fun w => ?_⟩
  have hfails := failsOnly_build hwindow hrules w
  cases hbuild : build s o w with
  | ok e => exact ⟨.inl ⟨e, rfl⟩, fun _ => ⟨e, rfl⟩⟩
  | error e =>
    obtain ⟨path, d, chosen, w', hd, hpseudorandom, -, -, rfl⟩ := hfails e hbuild
    refine ⟨.inr ⟨path, d, hd, hpseudorandom, rfl, rfl⟩, fun hnone => ?_⟩
    cases hpseudorandom.symm.trans (hnone path d hd)

/-- The paired groups break no rule. -/
theorem paired_builds_or_exhausted :
    paired.violations = [] ∧ InRange paired {} ∧ ∀ w : Words,
      (∃ e, build paired {} w = .ok e) ∨ ∃ path d, paired.Declares path d ∧
        d.pseudorandom = true ∧ build paired {} w = .error (.order path .exhausted) ∧
        (ScriptError.order path .exhausted).cause =
          path.text ++ ": " ++ OrderError.exhausted.message := by
  have hrules : paired.violations = [] := rfl
  have hwindow : ({} : BuildOptions).window ≠ 0 := by decide
  obtain ⟨hrange, hbuild⟩ := exists_build_or_exhausted hrules hwindow
  exact ⟨hrules, hrange, fun w => (hbuild w).1⟩

end Experiment

end Trials
