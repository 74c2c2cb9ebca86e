import Trials.Proofs.Experiment.Declarations
import Trials.Proofs.Experiment.LatinSquare
import Trials.Proofs.Experiment.Separation

/-!
# Groups whose columns are conditions

In groups that all list the same conditions in the same order (`ColumnAligned`) a column is a
condition.  A Latin square over whole rounds of such groups reads each column equally often, so the
pages that it takes have each condition equally often (`ColumnAligned.count_chosen`), whatever the
version.  As there are two conditions or more, these pages can always be kept apart.  A script that
breaks no rule and keeps no other pages apart is therefore always built (`build_of_aligned`).
-/

namespace Trials

theorem count_map_range {α : Type} [BEq α] [LawfulBEq α] {f : Nat → α} {a : α} {p : Nat → Prop}
    [DecidablePred p] (hp : ∀ i, f i = a ↔ p i) (n : Nat) :
    ((List.range n).map f).count a = Nat.count p n := by
  induction n with
  | zero => rfl
  | succ n ih =>
    rw [List.range_succ, List.map_append, List.count_append, ih, Nat.count_succ,
      List.map_singleton, List.count_singleton]
    simp [hp]

/-- A block takes pages by a Latin square from whole rounds of groups that list the same two or more
conditions in the same order. -/
structure ColumnAligned (d : BlockDecl) (groups : List (List PageDecl)) (tags : List Condition) :
    Prop where
  groups_eq : d.groups = some groups
  latinSquare : d.latinSquare = true
  nodup : tags.Nodup
  two_le : 2 ≤ tags.length
  aligned : ∀ group ∈ groups, group.map (·.condition) = tags.map some
  nonempty : groups ≠ []
  dvd : tags.length ∣ groups.length

namespace ColumnAligned

variable {d : BlockDecl} {groups : List (List PageDecl)} {tags : List Condition}
  {version : UInt32} {chosen : List PageDecl} {tag : Condition}

theorem length_group (h : ColumnAligned d groups tags) {group : List PageDecl}
    (hgroup : group ∈ groups) : group.length = tags.length := by
  simpa using congrArg List.length (h.aligned group hgroup)

/-- The page that is taken from a group has the condition of the column that is read. -/
theorem conditions_chosen (h : ColumnAligned d groups tags)
    (hchosen : selectLatinSquare groups version = .ok chosen) :
    chosen.map (·.condition) =
      (List.range groups.length).map fun row => tags[latinColumn tags.length row version]? := by
  have hpos : 0 < tags.length := Nat.zero_lt_of_lt h.two_le
  obtain ⟨chosen', hchosen', hlength, hread⟩ :=
    exists_selectLatinSquare hpos (fun _ => h.length_group) version
  cases hchosen.symm.trans hchosen'
  apply List.ext_getElem?
  intro row
  by_cases hrow : row < groups.length
  · have hgroup := List.getElem?_eq_getElem hrow
    have hcolumn := latinColumn_lt hpos row version
    have haligned := congrArg (·[latinColumn tags.length row version]?)
      (h.aligned _ (List.getElem_mem hrow))
    simp only [List.getElem?_map] at haligned
    rw [List.getElem?_map, hread hgroup, haligned, List.getElem?_map, List.getElem?_range hrow,
      Option.map_some, List.getElem?_eq_getElem hcolumn, Option.map_some]
  · rw [List.getElem?_eq_none (by simpa [hlength] using hrow),
      List.getElem?_eq_none (by simpa using hrow)]

theorem count_chosen (h : ColumnAligned d groups tags)
    (hchosen : selectLatinSquare groups version = .ok chosen) (htag : tag ∈ tags) :
    (chosen.map (·.condition)).count (some tag) = groups.length / tags.length := by
  obtain ⟨column, hcolumn, rfl⟩ := List.getElem_of_mem htag
  have hread : ∀ row, tags[latinColumn tags.length row version]? = some tags[column] ↔
      latinColumn tags.length row version = column := by
    intro row
    rw [← List.getElem?_eq_getElem hcolumn, eq_comm,
      List.getElem?_inj hcolumn h.nodup, eq_comm]
  rw [h.conditions_chosen hchosen, count_map_range hread]
  exact count_latinColumn_of_dvd hcolumn h.dvd

theorem mem_conditions (h : ColumnAligned d groups tags)
    (hchosen : selectLatinSquare groups version = .ok chosen) {c : Option Condition}
    (hc : c ∈ chosen.map (·.condition)) : ∃ tag ∈ tags, c = some tag := by
  rw [h.conditions_chosen hchosen] at hc
  obtain ⟨row, -, rfl⟩ := List.mem_map.1 hc
  have hcolumn := latinColumn_lt (Nat.zero_lt_of_lt h.two_le) row version
  exact ⟨_, List.getElem_mem hcolumn, List.getElem?_eq_getElem hcolumn⟩

/-- Each condition has a rival, for there are two or more and all are equally frequent. -/
theorem separable (h : ColumnAligned d groups tags)
    (hchosen : selectLatinSquare groups version = .ok chosen) :
    Separable (chosen.map (·.condition)) := by
  intro c hc
  obtain ⟨tag, htag, rfl⟩ := h.mem_conditions hchosen hc
  have hrest : 0 < (tags.erase tag).length := by
    rw [List.length_erase_of_mem htag]
    exact Nat.sub_pos_of_lt h.two_le
  obtain ⟨rival, hrival⟩ := List.exists_mem_of_length_pos hrest
  obtain ⟨hne, hrival⟩ := h.nodup.mem_erase_iff.1 hrival
  refine .inr ⟨some rival, by simpa using hne, ?_⟩
  rw [h.count_chosen hchosen htag, h.count_chosen hchosen hrival]

theorem exists_order (h : ColumnAligned d groups tags)
    (hchosen : selectLatinSquare groups version = .ok chosen) (w : Words) :
    ∃ order, (orderSeparated (chosen.map (·.condition)) defaultWindow w).1 = .ok order := by
  refine exists_orderSeparated (fun hnone => ?_) (h.separable hchosen) w
  obtain ⟨tag, -, heq⟩ := h.mem_conditions hchosen hnone
  cases heq

end ColumnAligned

namespace Experiment

open BlockTable Violation

variable {s : Script} {o : BuildOptions} {path : Path} {d : BlockDecl}
  {groups : List (List PageDecl)} {tags : List Condition} {chosen : List PageDecl} {w : Words}
  {e : Experiment}

/-- In a script that breaks no rule, a block of groups holds nothing else. -/
theorem content_of_groups (hrules : s.violations = []) (hd : s.Declares path d)
    (hgroups : d.groups = some groups) : d.pages = none ∧ d.blocks = none := by
  obtain ⟨outer, -, hwithin⟩ := hd.within_eq_nil (List.append_eq_nil_iff.1 hrules).2
  cases lawful_of_within hwithin with
  | blocks _ hnone => cases hgroups.symm.trans hnone
  | pages _ hnone => cases hgroups.symm.trans hnone
  | groups hpages => exact ⟨hpages, rfl⟩

/-- Where only column-aligned groups have their pages kept apart, no step of building fails. -/
theorem exists_build (hrules : s.violations = []) (hwindow : o.window = defaultWindow)
    (haligned : ∀ path d, s.Declares path d → d.pseudorandom = true →
      ∃ groups tags, ColumnAligned d groups tags) (w : Words) : ∃ e, build s o w = .ok e := by
  have hpositive : o.window ≠ 0 := hwindow ▸ by decide
  cases hbuild : build s o w with
  | ok e => exact ⟨e, rfl⟩
  | error e =>
    obtain ⟨path, d, chosen, w', hd, hpseudorandom, hchosen, herror, -⟩ :=
      failsOnly_build hpositive hrules w e hbuild
    obtain ⟨groups, tags, h⟩ := haligned path d hd hpseudorandom
    have hselect := hchosen.selectLatinSquare (content_of_groups hrules hd h.groups_eq).1
      h.groups_eq h.latinSquare
    obtain ⟨order, horder⟩ := h.exists_order hselect w'
    rw [hwindow, horder] at herror
    cases herror

/-- What a block of groups passes over are the pages that its Latin square takes. -/
theorem content_of_builtFrom {b : Block} (hrules : s.violations = []) (hd : s.Declares path d)
    (h : ColumnAligned d groups tags) (hfrom : BuiltFrom s o path d b) :
    ∃ chosen, selectLatinSquare groups o.assignment.version = .ok chosen ∧
      b.content = .pages (chosen.map (Page.ofDecl path)) d.pseudorandom := by
  obtain ⟨hpages, hblocks⟩ := content_of_groups hrules hd h.groups_eq
  obtain ⟨chosen, hchosen, hcontent⟩ := hfrom.leaf hblocks
  exact ⟨chosen, hchosen.selectLatinSquare hpages h.groups_eq h.latinSquare, hcontent⟩

/-- When an experiment has been built, pages that are to be kept apart are. -/
theorem separated_of_build (hbuild : build s o w = .ok e) {i : Nat} {b : Block}
    (hb : e.table[i]? = some b) {pages : List Page} (hcontent : b.content = .pages pages true) :
    b.pagesInOrder.Perm pages ∧ b.pagesInOrder.IsChain fun p q => p.condition ≠ q.condition := by
  have hperm := (ready_of_build hbuild).sound.table.order_perm hb
  refine ⟨?_, (keptApart_of_build hbuild hb).isChain hperm hcontent⟩
  rw [hcontent] at hperm
  rw [Block.pagesInOrder, hcontent]
  exact filterMap_getElem?_perm hperm

/-- A script that breaks no rule and keeps no pages apart but those that Latin squares take from
column-aligned groups is built for every assignment and with all random words.  The pages of each
such block have its conditions equally often, and no neighbours have the same. -/
theorem build_of_columnAligned (hrules : s.violations = []) (hwindow : o.window = defaultWindow)
    (haligned : ∀ path d, s.Declares path d → d.pseudorandom = true →
      ∃ groups tags, ColumnAligned d groups tags) (w : Words) :
    ∃ e, build s o w = .ok e ∧ ∀ path d groups tags, s.Declares path d → d.pseudorandom = true →
      ColumnAligned d groups tags →
      ∃ (chosen : List PageDecl) (i : Nat) (b : Block),
        selectLatinSquare groups o.assignment.version = .ok chosen ∧
        (∀ page ∈ chosen, ∃ tag ∈ tags, page.condition = some tag) ∧
        (∀ tag ∈ tags,
          (chosen.map (·.condition)).count (some tag) = groups.length / tags.length) ∧
        e.table[i]? = some b ∧ b.info.path = path ∧
        b.content = .pages (chosen.map (Page.ofDecl path)) true ∧
        b.pagesInOrder.Perm (chosen.map (Page.ofDecl path)) ∧
        b.pagesInOrder.IsChain fun p q => p.condition ≠ q.condition := by
  obtain ⟨e, hbuild⟩ := exists_build hrules hwindow haligned w
  refine ⟨e, hbuild, fun path d groups tags hd hpseudorandom h => ?_⟩
  obtain ⟨i, b, hb, hpath, hfrom⟩ := exists_builtFrom_of_build hbuild hd
  obtain ⟨chosen, hchosen, hcontent⟩ := content_of_builtFrom hrules hd h hfrom
  rw [hpseudorandom] at hcontent
  obtain ⟨hperm, hchain⟩ := separated_of_build hbuild hb hcontent
  exact ⟨chosen, i, b, hchosen,
    fun page hpage => h.mem_conditions hchosen (List.mem_map.2 ⟨page, hpage, rfl⟩),
    fun tag => h.count_chosen hchosen, hb, hpath, hcontent, hperm, hchain⟩

/-- The paired groups have the conditions `1` and `2` in this order. -/
theorem columnAligned_paired : ColumnAligned (testBlock 1 2)
    [[testPage "p1" 1, testPage "p2" 2], [testPage "q1" 1, testPage "q2" 2]]
    [.number 1, .number 2] where
  groups_eq := rfl
  latinSquare := rfl
  nodup := by decide
  two_le := by decide
  aligned := by decide
  nonempty := by decide
  dvd := by decide

theorem eq_of_paired_declares {path : Path} {d : BlockDecl} (hd : paired.Declares path d) :
    path = ⟨["test"]⟩ ∧ d = testBlock 1 2 :=
  Declares.leaf_iff.1 hd

/-- The paired groups are built for the greatest version, too, and with all random words. -/
theorem paired_built :
    paired.violations = [] ∧
      (∀ path d, paired.Declares path d → d.pseudorandom = true →
        ∃ groups tags, ColumnAligned d groups tags) ∧
      ∀ w : Words, ∃ e, build paired { assignment := { version := 4294967295 } } w = .ok e ∧
        ∃ (i : Nat) (b : Block), e.table[i]? = some b ∧
          b.content =
            .pages ([testPage "p2" 2, testPage "q1" 1].map (Page.ofDecl ⟨["test"]⟩)) true ∧
          b.pagesInOrder.IsChain fun p q => p.condition ≠ q.condition := by
  have haligned : ∀ path d, paired.Declares path d → d.pseudorandom = true →
      ∃ groups tags, ColumnAligned d groups tags := by
    intro path d hd _
    obtain ⟨-, rfl⟩ := eq_of_paired_declares hd
    exact ⟨_, _, columnAligned_paired⟩
  refine ⟨rfl, haligned, fun w => ?_⟩
  obtain ⟨e, hbuild, hblocks⟩ := build_of_columnAligned
    (o := { assignment := { version := 4294967295 } }) (s := paired) rfl rfl haligned w
  obtain ⟨chosen, i, b, hchosen, -, -, hb, -, hcontent, -, hchain⟩ :=
    hblocks ⟨["test"]⟩ (testBlock 1 2) _ _ (.here List.mem_cons_self) rfl columnAligned_paired
  obtain rfl : [testPage "p2" 2, testPage "q1" 1] = chosen := Except.ok.inj hchosen
  exact ⟨e, hbuild, i, b, hb, hcontent, hchain⟩

end Experiment

end Trials
