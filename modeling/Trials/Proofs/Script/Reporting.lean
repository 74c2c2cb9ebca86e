import Mathlib.Tactic.SplitIfs
import Trials.Proofs.Script.Pages

/-!
# Which broken rules are reported

Each rule of scripts says something about the fields of a block (`BlockFault.Breaks`) or about the
identifiers of siblings (`SiblingFault.BreaksIds`, `SiblingFault.BreaksOrder`).  The violations of a
script are exactly the broken rules of the blocks that are looked into, apart from those that
another broken rule of the same block hides (`Script.mem_violations_iff`).  Two rules hide others: a
block without exactly one kind of content is judged by nothing else but its head, and neither are
the blocks inside it looked into; and where a page has no condition, nothing more is said about
keeping pages apart.
-/

namespace Trials

/-! ## The rules -/

namespace BlockHead

/-- The groups that a block lists, if it lists any. -/
def listedGroups (b : BlockHead) : List (List PageDecl) := b.groups.getD []

/-- The pages that a block lists, by themselves or in groups. -/
def listedPages (b : BlockHead) : List PageDecl := b.pages.getD [] ++ b.listedGroups.flatten

/-- The conditions of the pages in the groups that a block lists. -/
def groupConditions (b : BlockHead) : List (Option Condition) :=
  b.listedGroups.flatten.map (·.condition)

/-- A page that the block lists has no condition. -/
def Untagged (b : BlockHead) : Prop := ∃ page ∈ b.listedPages, page.condition = none

end BlockHead

/-- The identifiers of the blocks that a block lists. -/
def BlockDecl.listedIds (b : BlockDecl) : List String := (b.blocks.getD []).map (·.id)

/-- What it means for a rule to be at fault: the page it asks about is not one page of the script,
or its pattern cannot be read. -/
def RuleError.Breaks (s : Script) (rule : RunRule) : RuleError → Prop
  | unknownPage id => rule.page? = some id ∧ s.pagePaths id = []
  | ambiguousPage id count =>
    rule.page? = some id ∧ (s.pagePaths id).length = count ∧ 2 ≤ count
  | badPattern pattern cause =>
    ∃ page, rule = .matched page pattern ∧ Program.compile pattern = .error cause

/-- What it means for siblings with some identifiers to break a rule. -/
def SiblingFault.BreaksIds (ids : List String) : SiblingFault → Prop
  | emptyId => "" ∈ ids
  | slashInId id => id ∈ ids ∧ '/' ∈ id.toList
  | duplicateId id => 2 ≤ ids.count id
  | unknownBlock _ _ => False
  | inBothSets _ => False

/-- What it means for the lists that name siblings to break a rule. -/
def SiblingFault.BreaksOrder (ids exchangeable counterbalance : List String) : SiblingFault → Prop
  | unknownBlock .exchangeable id => id ∈ exchangeable ∧ id ∉ ids
  | unknownBlock .counterbalance id => id ∈ counterbalance ∧ id ∉ ids
  | inBothSets id => id ∈ exchangeable ∧ id ∈ counterbalance
  | emptyId => False
  | slashInId _ => False
  | duplicateId _ => False

/-- What it means for a block to break a rule. -/
def BlockFault.Breaks (s : Script) (d : BlockDecl) : BlockFault → Prop
  | zeroCutoff => d.cutoff = 0
  | badCriterion => ∃ c, d.criterion = some c ∧ (c.isFinite = false ∨ c.lt .zero = true)
  | badRule cause => ∃ rule, d.runIf = some rule ∧ cause.Breaks s rule
  | noSingleContent => d.content = none
  | pageOrderOfBlocks =>
    (d.latinSquare = true ∨ d.pseudorandom = true) ∧ d.pages = none ∧ d.groups = none
  | blockOrderOfPages => (d.exchangeable ≠ [] ∨ d.counterbalance ≠ []) ∧ d.blocks = none
  | unevenGroups =>
    d.latinSquare = true ∧ ∃ g ∈ d.listedGroups, ∃ g' ∈ d.listedGroups, g.length ≠ g'.length
  | emptyGroup => [] ∈ d.listedGroups
  | latinSquareWithoutGroups => d.latinSquare = true ∧ d.pages ≠ none ∧ d.groups = none
  | untaggedPages => d.pseudorandom = true ∧ d.Untagged
  | randomPagesKeptApart => d.pseudorandom = true ∧ d.latinSquare = false ∧ d.groups ≠ none
  | unbalancedConditions => d.pseudorandom = true ∧ ∃ c c' : Condition,
    some c ∈ d.groupConditions ∧ some c' ∈ d.groupConditions ∧
      d.groupConditions.count (some c) ≠ d.groupConditions.count (some c')

/-- What it means for a block at a path to break a rule. -/
def Violation.Breaks (s : Script) (path : Path) (d : BlockDecl) : Violation → Prop
  | siblings scope fault => scope = .block path ∧
    (fault.BreaksIds d.listedIds ∨ fault.BreaksIds (d.listedPages.map (·.id)) ∨
      d.blocks ≠ none ∧ fault.BreaksOrder d.listedIds d.exchangeable d.counterbalance)
  | block place fault => place = path ∧ fault.Breaks s d

/-! ## What hides them -/

/-- The rules about what a block is asked before its content is looked at. -/
def BlockFault.OfHead : BlockFault → Prop
  | zeroCutoff => True
  | badCriterion => True
  | badRule _ => True
  | _ => False

/-- The rules about the order of pages. -/
def BlockFault.OfOrder : BlockFault → Prop
  | unevenGroups => True
  | emptyGroup => True
  | latinSquareWithoutGroups => True
  | untaggedPages => True
  | randomPagesKeptApart => True
  | unbalancedConditions => True
  | _ => False

/-- Another rule that the block breaks hides that it breaks this one. -/
def BlockFault.Hidden (d : BlockDecl) : BlockFault → Prop
  | zeroCutoff => False
  | badCriterion => False
  | badRule _ => False
  | noSingleContent => False
  | randomPagesKeptApart => d.content = none ∨ d.Untagged
  | unbalancedConditions => d.content = none ∨ d.Untagged
  | _ => d.content = none

/-- Another rule that the block breaks hides that it breaks this one. -/
def Violation.Hidden (d : BlockDecl) : Violation → Prop
  | siblings _ _ => d.content = none
  | block _ fault => fault.Hidden d

/-- It is a rule about what a block is asked before its content is looked at. -/
def Violation.OfHead : Violation → Prop
  | siblings _ _ => False
  | block _ fault => fault.OfHead

namespace Violation

variable {s : Script} {parent path : Path} {d : BlockDecl} {v : Violation}

/-! ## Siblings -/

@[simp] theorem mem_faultIf {α : Type} {condition : Bool} {fault other : α} :
    other ∈ faultIf condition fault ↔ condition = true ∧ other = fault := by
  cases condition <;> simp [faultIf]

theorem mem_idFaults {id : String} {fault : SiblingFault} : fault ∈ idFaults id ↔
    (fault = .emptyId ∧ id = "") ∨ (fault = .slashInId id ∧ '/' ∈ id.toList) := by
  unfold idFaults
  by_cases hempty : id = ""
  · subst hempty
    simp
  · have hne : id.isEmpty = false := by simpa using hempty
    simp [hne, hempty, and_comm]

/-- Behind some identifiers, one of them counts as a duplicate, too. -/
theorem mem_idsFaults {fault : SiblingFault} : ∀ {ids seen : List String},
    fault ∈ idsFaults seen ids ↔
      fault.BreaksIds ids ∨ ∃ id ∈ ids, id ∈ seen ∧ fault = .duplicateId id
  | [], _ => by cases fault <;> simp [idsFaults, SiblingFault.BreaksIds]
  | first :: rest, seen => by
    have ih : fault ∈ idsFaults (first :: seen) rest ↔ _ := mem_idsFaults
    rw [idsFaults, List.mem_append, List.mem_append, mem_idFaults, mem_faultIf, ih]
    cases fault with
    | duplicateId id =>
      by_cases hid : first = id
      · subst hid
        have hagain : 2 ≤ (first :: rest).count first ↔ first ∈ rest := by
          rw [List.count_cons_self, ← List.one_le_count_iff]
          omega
        simp only [SiblingFault.BreaksIds, hagain]
        grind
      · have hother : (first :: rest).count id = rest.count id := List.count_cons_of_ne hid
        simp [SiblingFault.BreaksIds, hother, Ne.symm hid]
    | emptyId => simp [SiblingFault.BreaksIds, eq_comm]
    | slashInId id =>
      simp only [SiblingFault.BreaksIds]
      grind
    | unknownBlock set id => simp [SiblingFault.BreaksIds]
    | inBothSets id => simp [SiblingFault.BreaksIds]

theorem mem_setFaults {ids exchangeable counterbalance : List String} {fault : SiblingFault} :
    fault ∈ setFaults ids exchangeable counterbalance ↔
      fault.BreaksOrder ids exchangeable counterbalance := by
  cases fault with
  | unknownBlock set id => cases set <;> simp [setFaults, SiblingFault.BreaksOrder]
  | inBothSets id => simp [setFaults, SiblingFault.BreaksOrder]
  | emptyId => simp [setFaults, SiblingFault.BreaksOrder]
  | slashInId id => simp [setFaults, SiblingFault.BreaksOrder]
  | duplicateId id => simp [setFaults, SiblingFault.BreaksOrder]

/-! ## The head of a block -/

theorem mem_unresolved {page : String} {cause : RuleError} :
    cause ∈ ruleFaults.unresolved s page ↔
      (cause = .unknownPage page ∧ s.pagePaths page = []) ∨
        (cause = .ambiguousPage page (s.pagePaths page).length ∧ 2 ≤ (s.pagePaths page).length) := by
  unfold ruleFaults.unresolved Script.resolvePage
  rcases s.pagePaths page with _ | ⟨first, _ | ⟨second, rest⟩⟩ <;> simp

theorem mem_ruleFaults {rule : RunRule} {cause : RuleError} :
    cause ∈ ruleFaults s rule ↔ cause.Breaks s rule := by
  cases rule with
  | permutation values =>
    cases cause <;> simp [ruleFaults, RuleError.Breaks, RunRule.page?]
  | selected page option =>
    rw [ruleFaults, mem_unresolved]
    cases cause <;> grind [RuleError.Breaks, RunRule.page?]
  | matched page pattern =>
    rw [ruleFaults, List.mem_append, mem_unresolved]
    cases hcompile : Program.compile pattern <;> cases cause <;>
      grind [RuleError.Breaks, RunRule.page?]

theorem isUsable_eq_false {criterion : Binary64} :
    isUsable criterion = false ↔ criterion.isFinite = false ∨ criterion.lt .zero = true := by
  rw [isUsable]
  cases criterion.isFinite <;> simp

theorem mem_headFaults {fault : BlockFault} :
    fault ∈ headFaults s d ↔ fault.OfHead ∧ fault.Breaks s d := by
  rw [headFaults, List.mem_append, List.mem_append, mem_faultIf, mem_faultIf]
  cases fault with
  | badCriterion => simp [BlockFault.OfHead, BlockFault.Breaks, isUsable_eq_false, Option.any_eq_true]
  | badRule cause => simp [BlockFault.OfHead, BlockFault.Breaks, mem_ruleFaults]
  | zeroCutoff => simp [BlockFault.OfHead, BlockFault.Breaks]
  | _ => simp [BlockFault.OfHead]

/-! ## The content of a block -/

section Content

variable {children : List BlockDecl} {pages : List PageDecl} {groups : List (List PageDecl)}
  {fault : BlockFault}

theorem content_eq_blocks (h : d.content = some (.blocks children)) :
    d.blocks = some children ∧ d.pages = none ∧ d.groups = none := by
  unfold BlockDecl.content at h
  split at h <;> grind

theorem content_eq_pages (h : d.content = some (.pages pages)) :
    d.blocks = none ∧ d.pages = some pages ∧ d.groups = none := by
  unfold BlockDecl.content at h
  split at h <;> grind

theorem content_eq_groups (h : d.content = some (.groups groups)) :
    d.blocks = none ∧ d.pages = none ∧ d.groups = some groups := by
  unfold BlockDecl.content at h
  split at h <;> grind

theorem isUneven_eq_true {ns : List Nat} :
    isUneven ns = true ↔ ∃ a ∈ ns, ∃ b ∈ ns, a ≠ b := by
  rw [← Bool.not_eq_false, isUneven_eq_false]
  push Not
  rfl

theorem isUneven_occurrences_eq_true {conditions : List (Option Condition)} :
    isUneven (occurrences conditions) = true ↔
      ∃ a ∈ conditions, ∃ b ∈ conditions, conditions.count a ≠ conditions.count b := by
  rw [← Bool.not_eq_false, isUneven_occurrences_eq_false]
  push Not
  rfl

/-- The pages that a block with one kind of content lists are those that it declares. -/
theorem declaredPages_eq_listedPages (h : d.content ≠ none) :
    d.declaredPages = d.listedPages := by
  rw [BlockHead.listedPages, BlockHead.listedGroups]
  cases hcontent : d.content with
  | none => exact absurd hcontent h
  | some content =>
    cases content with
    | blocks children =>
      obtain ⟨-, hpages, hgroups⟩ := content_eq_blocks hcontent
      simp [BlockDecl.declaredPages, hcontent, hpages, hgroups]
    | pages pages =>
      obtain ⟨-, hpages, hgroups⟩ := content_eq_pages hcontent
      simp [BlockDecl.declaredPages, hcontent, hpages, hgroups]
    | groups groups =>
      obtain ⟨-, hpages, hgroups⟩ := content_eq_groups hcontent
      simp [BlockDecl.declaredPages, hcontent, hpages, hgroups]

theorem mem_pageOrderFaults_pages (h : d.content = some (.pages pages)) :
    fault ∈ pageOrderFaults d none ↔ fault.OfOrder ∧ fault.Breaks s d ∧ ¬ fault.Hidden d := by
  obtain ⟨-, hpages, hgroups⟩ := content_eq_pages h
  have hdeclared : d.declaredPages = pages := by rw [BlockDecl.declaredPages, h]
  have hlisted : d.listedGroups = [] := by rw [BlockHead.listedGroups, hgroups]; rfl
  have huntagged : d.Untagged ↔ (pages.map (·.condition)).contains none = true := by
    rw [BlockHead.Untagged, ← declaredPages_eq_listedPages (by simp [h]), hdeclared]
    simp
  rw [pageOrderFaults, hdeclared]
  cases fault <;>
    grind [BlockFault.OfOrder, BlockFault.Breaks, BlockFault.Hidden, mem_faultIf,
      BlockHead.groupConditions]

theorem mem_pageOrderFaults_groups (h : d.content = some (.groups groups)) :
    fault ∈ pageOrderFaults d (some groups) ↔
      fault.OfOrder ∧ fault.Breaks s d ∧ ¬ fault.Hidden d := by
  obtain ⟨-, -, hgroups⟩ := content_eq_groups h
  have hdeclared : d.declaredPages = groups.flatten := by rw [BlockDecl.declaredPages, h]
  have hlisted : d.listedGroups = groups := by rw [BlockHead.listedGroups, hgroups]; rfl
  have hconditions : d.groupConditions = groups.flatten.map (·.condition) := by
    rw [BlockHead.groupConditions, hlisted]
  have huntagged : d.Untagged ↔ none ∈ d.groupConditions := by
    rw [BlockHead.Untagged, ← declaredPages_eq_listedPages (by simp [h]), hdeclared, hconditions,
      List.mem_map]
  have hempty : groups.any List.isEmpty = true ↔ [] ∈ groups := by simp
  have huneven : isUneven (groups.map List.length) = true ↔
      ∃ g ∈ groups, ∃ g' ∈ groups, g.length ≠ g'.length := by
    simp [isUneven_eq_true]
  have hbalance : none ∉ d.groupConditions →
      (isUneven (occurrences d.groupConditions) = true ↔ ∃ c c' : Condition,
        some c ∈ d.groupConditions ∧ some c' ∈ d.groupConditions ∧
          d.groupConditions.count (some c) ≠ d.groupConditions.count (some c')) := by
    intro htagged
    rw [isUneven_occurrences_eq_true]
    constructor
    · rintro ⟨a, ha, b, hb, hne⟩
      obtain ⟨c, rfl⟩ := Option.ne_none_iff_exists'.1 (ne_of_mem_of_not_mem ha htagged)
      obtain ⟨c', rfl⟩ := Option.ne_none_iff_exists'.1 (ne_of_mem_of_not_mem hb htagged)
      exact ⟨c, c', ha, hb, hne⟩
    · rintro ⟨c, c', hc, hc', hne⟩
      exact ⟨_, hc, _, hc', hne⟩
  rw [pageOrderFaults, hdeclared, ← hconditions]
  cases fault <;>
    grind [BlockFault.OfOrder, BlockFault.Breaks, BlockFault.Hidden, mem_faultIf]

theorem not_breaksIds_nil {fault : SiblingFault} : ¬ fault.BreaksIds [] := by
  cases fault <;> simp [SiblingFault.BreaksIds]

theorem mem_ofBranch (h : d.content = some (.blocks children)) :
    v ∈ ofBranch d path children ↔ v.Breaks s path d ∧ ¬ v.Hidden d ∧ ¬ v.OfHead := by
  obtain ⟨hblocks, hpages, hgroups⟩ := content_eq_blocks h
  have hids : d.listedIds = children.map (·.id) := by rw [BlockDecl.listedIds, hblocks]; rfl
  have hlisted : d.listedGroups = [] := by rw [BlockHead.listedGroups, hgroups]; rfl
  have hnone : d.listedPages = [] := by
    rw [← declaredPages_eq_listedPages (by simp [h]), BlockDecl.declaredPages, h]
  have hconditions : d.groupConditions = [] := by rw [BlockHead.groupConditions, hlisted]; rfl
  have huntagged : ¬ d.Untagged := by simp [BlockHead.Untagged, hnone]
  rw [ofBranch, List.mem_append, mem_faultIf, ← hids]
  cases v with
  | siblings scope fault =>
    simp only [List.mem_map, List.mem_append, mem_idsFaults, mem_setFaults, Violation.Breaks,
      Violation.Hidden, Violation.OfHead, hnone, List.map_nil, not_breaksIds_nil, h, hblocks]
    grind
  | block place fault =>
    cases fault <;>
      grind [BlockFault.OfHead, BlockFault.Breaks, BlockFault.Hidden, Violation.Breaks,
        Violation.Hidden, Violation.OfHead]

theorem mem_ofPages {groups : Option (List (List PageDecl))} (hcontent : d.content ≠ none)
    (hblocks : d.blocks = none) (hkind : d.pages ≠ none ∨ d.groups ≠ none)
    (horder : ∀ fault, fault ∈ pageOrderFaults d groups ↔
      fault.OfOrder ∧ fault.Breaks s d ∧ ¬ fault.Hidden d) :
    v ∈ ofPages d path groups ↔ v.Breaks s path d ∧ ¬ v.Hidden d ∧ ¬ v.OfHead := by
  have hids : d.listedIds = [] := by rw [BlockDecl.listedIds, hblocks]; rfl
  rw [ofPages, List.mem_append, List.mem_append, mem_faultIf,
    declaredPages_eq_listedPages hcontent]
  cases v with
  | siblings scope fault =>
    simp only [List.mem_map, mem_idsFaults, Violation.Breaks, Violation.Hidden, Violation.OfHead,
      hids, not_breaksIds_nil, hcontent, hblocks]
    grind
  | block place fault =>
    cases fault <;>
      grind [BlockFault.OfHead, BlockFault.OfOrder, BlockFault.Breaks, BlockFault.Hidden,
        Violation.Breaks, Violation.Hidden, Violation.OfHead]

theorem not_hidden_of_ofHead (h : v.OfHead) : ¬ v.Hidden d := by
  cases v with
  | siblings scope fault => exact absurd h id
  | block place fault => cases fault <;> simp_all [Violation.OfHead, BlockFault.OfHead,
      Violation.Hidden, BlockFault.Hidden]

/-- A block without one kind of content hides all its rules but those of its head and that one. -/
theorem mem_noSingleContent (h : d.content = none) : v ∈ [block path .noSingleContent] ↔
    v.Breaks s path d ∧ ¬ v.Hidden d ∧ ¬ v.OfHead := by
  rw [List.mem_singleton]
  cases v with
  | siblings scope fault => simp [Violation.Hidden, h]
  | block place fault =>
    cases fault <;>
      grind [BlockFault.OfHead, BlockFault.Breaks, BlockFault.Hidden, Violation.Breaks,
        Violation.Hidden, Violation.OfHead]

theorem mem_head_append {body : List Violation}
    (hbody : v ∈ body ↔ v.Breaks s path d ∧ ¬ v.Hidden d ∧ ¬ v.OfHead) :
    v ∈ (headFaults s d).map (block path) ++ body ↔ v.Breaks s path d ∧ ¬ v.Hidden d := by
  have hhead : v ∈ (headFaults s d).map (block path) ↔ v.Breaks s path d ∧ v.OfHead := by
    cases v with
    | siblings scope fault => simp [Violation.OfHead]
    | block place fault =>
      simp only [List.mem_map, mem_headFaults, Violation.Breaks, Violation.OfHead]
      grind
  rw [List.mem_append, hhead, hbody]
  have hshown := not_hidden_of_ofHead (v := v) (d := d)
  by_cases hv : v.OfHead
  · simp [hv, hshown hv]
  · simp [hv]

/-- The violations of a block are the rules that it breaks and that no other one hides. -/
theorem mem_ofBlock : v ∈ ofBlock s parent d ↔
    v.Breaks s (parent.child d.id) d ∧ ¬ v.Hidden d := by
  rw [ofBlock]
  split
  next h => exact mem_head_append (mem_noSingleContent h)
  next children h => exact mem_head_append (mem_ofBranch h)
  next pages h =>
    obtain ⟨hblocks, hpages, -⟩ := content_eq_pages h
    exact mem_head_append (mem_ofPages (by simp [h]) hblocks (.inl (by simp [hpages]))
      fun _ => mem_pageOrderFaults_pages h)
  next groups h =>
    obtain ⟨hblocks, -, hgroups⟩ := content_eq_groups h
    exact mem_head_append (mem_ofPages (by simp [h]) hblocks (.inr (by simp [hgroups]))
      fun _ => mem_pageOrderFaults_groups h)

end Content

end Violation

/-! ## Blocks inside blocks -/

/-- A block is looked into: it is one of some blocks beneath a path, or it stands inside one of them
that has no other content. -/
inductive Inspects : Path → List BlockDecl → Path → BlockDecl → Prop where
  | here {parent : Path} {decls : List BlockDecl} {d : BlockDecl} (hd : d ∈ decls) :
    Inspects parent decls (parent.child d.id) d
  | inside {parent path : Path} {decls blocks : List BlockDecl} {head : BlockHead} {d : BlockDecl}
    (hmem : { toBlockHead := head, blocks := some blocks } ∈ decls) (hpages : head.pages = none)
    (hgroups : head.groups = none) (h : Inspects (parent.child head.id) blocks path d) :
    Inspects parent decls path d

/-- A script's rules are asked of the block at a path. -/
def Script.Inspects (s : Script) : Path → BlockDecl → Prop := Trials.Inspects .root s.blocks

namespace Inspects

open Violation

variable {s : Script} {parent path : Path} {decls decls' : List BlockDecl} {d : BlockDecl}
  {v : Violation}

theorem mono (h : Inspects parent decls path d) (hsub : decls ⊆ decls') :
    Inspects parent decls' path d := by
  cases h with
  | here hd => exact .here (hsub hd)
  | inside hmem hpages hgroups h => exact .inside (hsub hmem) hpages hgroups h

/-- Where every block has one kind of content, all of them are looked into. -/
theorem of_declares (h : Declares parent decls path d)
    (hcontent : ∀ path d, Declares parent decls path d → d.content ≠ none) :
    Inspects parent decls path d := by
  induction h with
  | here hd => exact .here hd
  | @inside parent path decls blocks head d hmem h ih =>
    have hhead := hcontent _ _ (.here hmem)
    have hkind : head.pages = none ∧ head.groups = none := by
      cases hpages : head.pages <;> cases hgroups : head.groups <;>
        simp [BlockDecl.content, hpages, hgroups] at hhead ⊢
    exact .inside hmem hkind.1 hkind.2 (ih fun path d hd => hcontent path d (.inside hmem hd))

end Inspects

namespace Violation

variable {s : Script} {parent path : Path} {v : Violation}

theorem mem_within_of_mem_ofBlock : ∀ {d : BlockDecl}, v ∈ ofBlock s parent d →
    v ∈ within s parent d
  | { toBlockHead := _, blocks := none }, h => by rwa [within]
  | { toBlockHead := _, blocks := some _ }, h => by
    rw [within]
    exact List.mem_append_left _ h

theorem mem_withinAll_of_mem_within {d : BlockDecl} : ∀ {decls : List BlockDecl}, d ∈ decls →
    v ∈ within s parent d → v ∈ withinAll s parent decls
  | first :: rest, hd, h => by
    rw [withinAll]
    obtain rfl | hd := List.mem_cons.1 hd
    · exact List.mem_append_left _ h
    · exact List.mem_append_right _ (mem_withinAll_of_mem_within hd h)

/-- A rule that is not hidden is reported for every block that is looked into. -/
theorem mem_withinAll_of_inspects {decls : List BlockDecl} {d : BlockDecl}
    (h : Inspects parent decls path d) (hbreaks : v.Breaks s path d) (hshown : ¬ v.Hidden d) :
    v ∈ withinAll s parent decls := by
  induction h with
  | here hd =>
    exact mem_withinAll_of_mem_within hd
      (mem_within_of_mem_ofBlock (mem_ofBlock.2 ⟨hbreaks, hshown⟩))
  | inside hmem hpages hgroups _ ih =>
    refine mem_withinAll_of_mem_within hmem ?_
    rw [within, if_pos (by simp [hpages, hgroups])]
    exact List.mem_append_right _ (ih hbreaks hshown)

mutual

/-- Nothing is reported but rules that are broken and not hidden. -/
theorem exists_of_mem_within {parent : Path} : ∀ {d : BlockDecl}, v ∈ within s parent d →
    ∃ path d', Inspects parent [d] path d' ∧ v.Breaks s path d' ∧ ¬ v.Hidden d'
  | { toBlockHead := head, blocks := none }, h => by
    rw [within] at h
    exact ⟨_, _, .here List.mem_cons_self, mem_ofBlock.1 h⟩
  | { toBlockHead := head, blocks := some blocks }, h => by
    rw [within] at h
    obtain h | h := List.mem_append.1 h
    · exact ⟨_, _, .here List.mem_cons_self, mem_ofBlock.1 h⟩
    · split_ifs at h with hkind
      · rw [Bool.and_eq_true, Option.isNone_iff_eq_none, Option.isNone_iff_eq_none] at hkind
        obtain ⟨path, d, hd, hv⟩ := exists_of_mem_withinAll h
        exact ⟨path, d, .inside List.mem_cons_self hkind.1 hkind.2 hd, hv⟩
      · cases h

theorem exists_of_mem_withinAll {parent : Path} : ∀ {decls : List BlockDecl},
    v ∈ withinAll s parent decls →
    ∃ path d, Inspects parent decls path d ∧ v.Breaks s path d ∧ ¬ v.Hidden d
  | [], h => by cases h
  | first :: rest, h => by
    rw [withinAll] at h
    obtain h | h := List.mem_append.1 h
    · obtain ⟨path, d, hd, hv⟩ := exists_of_mem_within h
      exact ⟨path, d, hd.mono (by simp), hv⟩
    · obtain ⟨path, d, hd, hv⟩ := exists_of_mem_withinAll h
      exact ⟨path, d, hd.mono (by simp), hv⟩

end

end Violation

/-- A script is told exactly of the rules that its siblings on the top level break, and of those
that a block breaks that is looked into, unless another rule hides them. -/
theorem Script.mem_violations_iff (s : Script) (v : Violation) : v ∈ s.violations ↔
    (∃ fault : SiblingFault, v = .siblings .experiment fault ∧
      (fault.BreaksIds (s.blocks.map (·.id)) ∨
        fault.BreaksOrder (s.blocks.map (·.id)) s.exchangeable s.counterbalance)) ∨
      ∃ path d, s.Inspects path d ∧ v.Breaks s path d ∧ ¬ v.Hidden d := by
  rw [violations, List.mem_append]
  refine or_congr ?siblings ?blocks
  case siblings =>
    simp only [List.mem_map, List.mem_append, Violation.mem_idsFaults, Violation.mem_setFaults]
    grind
  case blocks =>
    constructor
    · exact Violation.exists_of_mem_withinAll
    · rintro ⟨path, d, hd, hbreaks, hshown⟩
      exact Violation.mem_withinAll_of_inspects hd hbreaks hshown

/-- Where every block has one kind of content, a block whose pages have conditions is told of all
rules that it breaks. -/
theorem Script.mem_violations_of_breaks {s : Script} {path : Path} {d : BlockDecl} {v : Violation}
    (hd : s.Declares path d) (hcontent : ∀ path d, s.Declares path d → d.content ≠ none)
    (htagged : ¬ d.Untagged) (hbreaks : v.Breaks s path d) : v ∈ s.violations := by
  have hshown : ¬ v.Hidden d := by
    have hkind := hcontent path d hd
    cases v with
    | siblings scope fault => exact hkind
    | block place fault => cases fault <;> simp [Violation.Hidden, BlockFault.Hidden, hkind, htagged]
  exact List.mem_append_right _
    (Violation.mem_withinAll_of_inspects (.of_declares hd hcontent) hbreaks hshown)

/-! ## Hidden rules -/

/-- A block that may never run. -/
def barredBlock : BlockDecl := { id := "inner", cutoff := 0, pages := some [] }

/-- A block with pages beside that block. -/
def mixedBlock : BlockDecl := { id := "outer", pages := some [], blocks := some [barredBlock] }

/-- A block that is to keep pages apart, one of which has no condition, and chooses them at
random. -/
def untaggedBlock : BlockDecl :=
  { id := "groups", pseudorandom := true, groups := some [[{ id := "p" }]] }

/-- A script of these blocks. -/
def hidingScript : Script := { blocks := [mixedBlock, untaggedBlock] }

theorem hidingScript_violations : hidingScript.violations =
    [.block ⟨["outer"]⟩ .noSingleContent, .block ⟨["groups"]⟩ .untaggedPages] := by
  rfl

/-- Neither the cutoff of the inner block is reported nor the choice at random. -/
theorem hidingScript_unreported :
    (hidingScript.Declares ⟨["outer", "inner"]⟩ barredBlock ∧
      Violation.Breaks hidingScript ⟨["outer", "inner"]⟩ barredBlock
        (.block ⟨["outer", "inner"]⟩ .zeroCutoff) ∧
      .block ⟨["outer", "inner"]⟩ .zeroCutoff ∉ hidingScript.violations) ∧
    hidingScript.Declares ⟨["groups"]⟩ untaggedBlock ∧
      Violation.Breaks hidingScript ⟨["groups"]⟩ untaggedBlock
        (.block ⟨["groups"]⟩ .randomPagesKeptApart) ∧
      .block ⟨["groups"]⟩ .randomPagesKeptApart ∉ hidingScript.violations := by
  have houter : { toBlockHead := mixedBlock.toBlockHead, blocks := some [barredBlock] } ∈
      hidingScript.blocks := List.mem_cons_self
  have hgroups : untaggedBlock ∈ hidingScript.blocks := by simp [hidingScript]
  rw [hidingScript_violations]
  refine ⟨⟨.inside houter (.here List.mem_cons_self), ⟨rfl, rfl⟩, by decide⟩, .here hgroups, ?_,
    by decide⟩
  exact ⟨rfl, rfl, rfl, Option.some_ne_none _⟩

end Trials
