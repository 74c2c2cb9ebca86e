import Mathlib.Data.List.Nodup
import Trials.Script.Violation
import Trials.Proofs.Path

/-!
# Scripts that break no rule

What the rules of scripts come to, where none of them is broken.  `Declares` says at which path a
block is declared; `Violation.Lawful` lists the three kinds of block, each with what the rules ask
of it.  The identifiers of siblings differ, so that a path stands for one block (`Declares.unique`).
-/

namespace Trials

namespace Violation

variable {s : Script} {parent : Path}

/-! ## Single rules -/

@[simp] theorem faultIf_eq_nil {α : Type} {condition : Bool} {fault : α} :
    faultIf condition fault = [] ↔ condition = false := by
  cases condition <;> simp [faultIf]

theorem isUneven_eq_false : ∀ {ns : List Nat},
    isUneven ns = false ↔ ∀ a ∈ ns, ∀ b ∈ ns, a = b
  | [] => by simp [isUneven]
  | n :: rest => by
    have hfirst : isUneven (n :: rest) = false ↔ ∀ a ∈ rest, a = n := by simp [isUneven]
    rw [hfirst]
    constructor
    · intro h
      have hall : ∀ a ∈ n :: rest, a = n := List.forall_mem_cons.2 ⟨rfl, h⟩
      exact fun a ha b hb => (hall a ha).trans (hall b hb).symm
    · exact fun h a ha => h a (List.mem_cons_of_mem _ ha) n List.mem_cons_self

/-- Conditions that are represented evenly occur equally often. -/
theorem isUneven_occurrences_eq_false {conditions : List (Option Condition)} :
    isUneven (occurrences conditions) = false ↔
      ∀ a ∈ conditions, ∀ b ∈ conditions, conditions.count a = conditions.count b := by
  simp only [isUneven_eq_false, occurrences, List.forall_mem_map]

theorem nodup_of_idsFaults : ∀ {ids seen : List String}, idsFaults seen ids = [] →
    ids.Nodup ∧ ∀ id ∈ ids, id ∉ seen
  | [], _, _ => ⟨List.nodup_nil, nofun⟩
  | id :: rest, seen, h => by
    rw [idsFaults, List.append_eq_nil_iff, List.append_eq_nil_iff] at h
    obtain ⟨⟨-, hnew⟩, hrest⟩ := h
    obtain ⟨hnodup, hother⟩ := nodup_of_idsFaults hrest
    have hnew : id ∉ seen := by simpa using hnew
    constructor
    · exact List.nodup_cons.2 ⟨fun hid => hother id hid List.mem_cons_self, hnodup⟩
    · refine List.forall_mem_cons.2 ⟨hnew, fun other hmem hseen => ?_⟩
      exact hother other hmem (List.mem_cons_of_mem _ hseen)

theorem plain_of_idsFaults : ∀ {ids seen : List String}, idsFaults seen ids = [] →
    ∀ id ∈ ids, Path.PlainId id
  | [], _, _ => nofun
  | id :: rest, seen, h => by
    rw [idsFaults, List.append_eq_nil_iff, List.append_eq_nil_iff] at h
    obtain ⟨⟨hid, -⟩, hrest⟩ := h
    refine List.forall_mem_cons.2 ⟨?_, plain_of_idsFaults hrest⟩
    unfold idFaults at hid
    split at hid
    · cases hid
    · rename_i hempty
      exact ⟨by simpa using hempty, by simpa using hid⟩

/-- No block is named in both lists. -/
theorem not_mem_both {ids exchangeable counterbalance : List String}
    (h : setFaults ids exchangeable counterbalance = []) {id : String}
    (hid : id ∈ exchangeable) : id ∉ counterbalance := by
  have hnone := List.map_eq_nil_iff.1 (List.append_eq_nil_iff.1 h).2
  simpa using List.filter_eq_nil_iff.1 hnone id hid

/-! ## Blocks -/

theorem withinAll_eq_nil_iff : ∀ {decls : List BlockDecl},
    withinAll s parent decls = [] ↔ ∀ d ∈ decls, within s parent d = []
  | [] => by simp [withinAll]
  | d :: rest => by
    rw [withinAll, List.append_eq_nil_iff, withinAll_eq_nil_iff, List.forall_mem_cons]

theorem ofBlock_eq_nil : ∀ {d : BlockDecl}, within s parent d = [] → ofBlock s parent d = []
  | { toBlockHead := _, blocks := none }, h => by rwa [within] at h
  | { toBlockHead := _, blocks := some _ }, h => by
    rw [within] at h
    exact (List.append_eq_nil_iff.1 h).1

theorem headFaults_eq_nil {d : BlockDecl} (h : within s parent d = []) : headFaults s d = [] :=
  List.map_eq_nil_iff.1 (List.append_eq_nil_iff.1 (ofBlock_eq_nil h)).1

/-- A block that breaks no rule may run at least once. -/
theorem cutoff_pos {d : BlockDecl} (h : within s parent d = []) : 0 < d.cutoff.toNat := by
  have hhead := headFaults_eq_nil h
  rw [headFaults, List.append_eq_nil_iff, List.append_eq_nil_iff, faultIf_eq_nil,
    beq_eq_false_iff_ne] at hhead
  exact Nat.pos_of_ne_zero fun hzero => hhead.1.1 (UInt32.toNat_inj.1 hzero)

/-- A block that breaks no rule, by the kind of its content. -/
inductive Lawful (s : Script) (parent : Path) : BlockDecl → Prop where
  /-- No block inside is both exchangeable and counterbalanced. -/
  | blocks {head : BlockHead} {blocks : List BlockDecl} (hpages : head.pages = none)
    (hgroups : head.groups = none) (hpseudorandom : head.pseudorandom = false)
    (hnodup : (blocks.map (·.id)).Nodup)
    (hapart : ∀ id ∈ head.exchangeable, id ∉ head.counterbalance)
    (hinside : withinAll s (parent.child head.id) blocks = []) :
    Lawful s parent { toBlockHead := head, blocks := some blocks }
  /-- Pages that are kept apart have conditions. -/
  | pages {head : BlockHead} {pages : List PageDecl} (hpages : head.pages = some pages)
    (hgroups : head.groups = none)
    (htagged : head.pseudorandom = true → ∀ page ∈ pages, page.condition ≠ none) :
    Lawful s parent { toBlockHead := head, blocks := none }
  /-- No group is empty, and a Latin square has groups of one size. -/
  | groups {head : BlockHead} {groups : List (List PageDecl)} (hpages : head.pages = none)
    (hgroups : head.groups = some groups) (hnonempty : ∀ group ∈ groups, group ≠ [])
    (heven : head.latinSquare = true → ∀ a ∈ groups, ∀ b ∈ groups, a.length = b.length)
    (htagged : head.pseudorandom = true → ∀ page ∈ groups.flatten, page.condition ≠ none) :
    Lawful s parent { toBlockHead := head, blocks := none }

/-- A block that keeps pages apart declares none without a condition. -/
theorem tagged_of_pageOrderFaults {d : BlockDecl} {groups : Option (List (List PageDecl))}
    (h : pageOrderFaults d groups = []) (hpseudorandom : d.pseudorandom = true) :
    ∀ page ∈ d.declaredPages, page.condition ≠ none := by
  have hrest := (List.append_eq_nil_iff.1 h).2
  intro page hpage hnone
  have hmem : (d.declaredPages.map (·.condition)).contains none = true := by
    simpa using ⟨page, hpage, hnone⟩
  simp only [hpseudorandom, hmem, if_true] at hrest
  cases hrest

theorem lawful_of_within : ∀ {d : BlockDecl}, within s parent d = [] → Lawful s parent d
  | { toBlockHead := head, blocks := none }, h => by
    have hcontent := (List.append_eq_nil_iff.1 (ofBlock_eq_nil h)).2
    cases hpages : head.pages with
    | none =>
      cases hgroups : head.groups with
      | none => simp [BlockDecl.content, hpages, hgroups] at hcontent
      | some groups =>
        simp only [BlockDecl.content, hpages, hgroups, ofPages, List.append_eq_nil_iff,
          List.map_eq_nil_iff] at hcontent
        have horder := hcontent.2
        have hfaults := (List.append_eq_nil_iff.1 horder).1
        simp only [List.append_eq_nil_iff, faultIf_eq_nil, Bool.and_eq_false_imp,
          isUneven_eq_false, List.forall_mem_map, List.any_eq_false, List.isEmpty_iff] at hfaults
        refine .groups hpages hgroups hfaults.2 hfaults.1 fun hpseudorandom => ?_
        have htagged := tagged_of_pageOrderFaults horder hpseudorandom
        simpa only [BlockDecl.declaredPages, BlockDecl.content, hpages, hgroups] using htagged
    | some pages =>
      cases hgroups : head.groups with
      | none =>
        simp only [BlockDecl.content, hpages, hgroups, ofPages, List.append_eq_nil_iff,
          List.map_eq_nil_iff] at hcontent
        refine .pages hpages hgroups fun hpseudorandom => ?_
        have htagged := tagged_of_pageOrderFaults hcontent.2 hpseudorandom
        simpa only [BlockDecl.declaredPages, BlockDecl.content, hpages, hgroups] using htagged
      | some groups => simp [BlockDecl.content, hpages, hgroups] at hcontent
  | { toBlockHead := head, blocks := some blocks }, h => by
    have hcontent := (List.append_eq_nil_iff.1 (ofBlock_eq_nil h)).2
    cases hpages : head.pages with
    | some pages => simp [BlockDecl.content, hpages] at hcontent
    | none =>
      cases hgroups : head.groups with
      | some groups => simp [BlockDecl.content, hpages, hgroups] at hcontent
      | none =>
        simp only [BlockDecl.content, hpages, hgroups, ofBranch, List.append_eq_nil_iff,
          List.map_eq_nil_iff, faultIf_eq_nil, Bool.or_eq_false_iff] at hcontent
        obtain ⟨⟨-, hpseudorandom⟩, hids, hsets⟩ := hcontent
        rw [within] at h
        have hinside := (List.append_eq_nil_iff.1 h).2
        rw [if_pos (by simp [hpages, hgroups])] at hinside
        exact .blocks hpages hgroups hpseudorandom (nodup_of_idsFaults hids).1
          (fun id hid => not_mem_both hsets hid) hinside

theorem withinAll_of_within {head : BlockHead} {blocks : List BlockDecl}
    (h : within s parent { toBlockHead := head, blocks := some blocks } = []) :
    withinAll s (parent.child head.id) blocks = [] := by
  cases lawful_of_within h with
  | blocks _ _ _ _ _ hinside => exact hinside

/-- The identifiers of the blocks inside a block break no rule. -/
theorem idsFaults_blocks {head : BlockHead} {blocks : List BlockDecl}
    (h : within s parent { toBlockHead := head, blocks := some blocks } = []) :
    idsFaults [] (blocks.map (·.id)) = [] := by
  have hcontent := (List.append_eq_nil_iff.1 (ofBlock_eq_nil h)).2
  cases lawful_of_within h with
  | blocks hpages hgroups =>
    simp only [BlockDecl.content, hpages, hgroups, ofBranch, List.append_eq_nil_iff,
      List.map_eq_nil_iff] at hcontent
    exact hcontent.2.1

/-- The identifiers of the pages that a block declares break no rule. -/
theorem idsFaults_pages {d : BlockDecl} (h : within s parent d = []) :
    idsFaults [] (d.declaredPages.map (·.id)) = [] := by
  have hcontent := (List.append_eq_nil_iff.1 (ofBlock_eq_nil h)).2
  cases hkind : d.content with
  | none => simp [BlockDecl.declaredPages, hkind, idsFaults]
  | some kind =>
    rw [hkind] at hcontent
    cases kind with
    | blocks children => simp [BlockDecl.declaredPages, hkind, idsFaults]
    | pages | groups =>
      simp only [ofPages, List.append_eq_nil_iff, List.map_eq_nil_iff] at hcontent
      exact hcontent.1.2

end Violation

/-! ## Declared blocks -/

/-- A block is declared at a path: it is one of some blocks beneath another path, or it stands
inside one of them. -/
inductive Declares : Path → List BlockDecl → Path → BlockDecl → Prop where
  | here {parent : Path} {decls : List BlockDecl} {d : BlockDecl} (hd : d ∈ decls) :
    Declares parent decls (parent.child d.id) d
  | inside {parent path : Path} {decls blocks : List BlockDecl} {head : BlockHead} {d : BlockDecl}
    (hmem : { toBlockHead := head, blocks := some blocks } ∈ decls)
    (h : Declares (parent.child head.id) blocks path d) : Declares parent decls path d

/-- A script declares a block at a path. -/
def Script.Declares (s : Script) : Path → BlockDecl → Prop := Trials.Declares .root s.blocks

namespace Declares

open Violation

variable {s : Script} {parent path : Path} {decls decls' : List BlockDecl} {d d' : BlockDecl}

theorem mono (h : Declares parent decls path d) (hsub : decls ⊆ decls') :
    Declares parent decls' path d := by
  cases h with
  | here hd => exact .here (hsub hd)
  | inside hmem h => exact .inside (hsub hmem) h

theorem within_eq_nil (h : Declares parent decls path d) (hrules : withinAll s parent decls = []) :
    ∃ outer : Path, path = outer.child d.id ∧ within s outer d = [] := by
  induction h with
  | here hd => exact ⟨_, rfl, withinAll_eq_nil_iff.1 hrules _ hd⟩
  | inside hmem _ ih => exact ih (withinAll_of_within (withinAll_eq_nil_iff.1 hrules _ hmem))

theorem isWithin (h : Declares parent decls path d) : path.isWithin parent = true := by
  induction h with
  | here => exact Path.isWithin_child _ _
  | inside _ _ ih =>
    exact Path.isWithin_iff.2 ((List.prefix_append _ _).trans (Path.isWithin_iff.1 ih))

/-- What stands inside a block has a longer path. -/
theorem ne_child {id : String} (h : Declares (parent.child id) decls path d) (other : String) :
    path ≠ parent.child other := by
  intro hpath
  have hlt : parent.segments.length + 1 < path.segments.length := by
    cases h with
    | here => simp
    | inside _ h =>
      have hle := (Path.isWithin_iff.1 h.isWithin).length_le
      simp at hle
      omega
  rw [hpath] at hlt
  simp at hlt

/-- No path is beneath two siblings. -/
theorem eq_of_isWithin (hnodup : (decls.map (·.id)).Nodup) (hd : d ∈ decls) (hd' : d' ∈ decls)
    (h : path.isWithin (parent.child d.id) = true)
    (h' : path.isWithin (parent.child d'.id) = true) : d = d' := by
  have hlength : (parent.child d.id).segments.length = (parent.child d'.id).segments.length := by
    simp
  have hprefix := List.prefix_of_prefix_length_le (Path.isWithin_iff.1 h) (Path.isWithin_iff.1 h')
    (Nat.le_of_eq hlength)
  have hid : d.id = d'.id := by simpa using hprefix.eq_of_length hlength
  exact List.inj_on_of_nodup_map hnodup hd hd' hid

/-- Where siblings differ in their identifiers, a path stands for one block. -/
theorem unique (h : Declares parent decls path d) (h' : Declares parent decls path d')
    (hnodup : (decls.map (·.id)).Nodup) (hrules : withinAll s parent decls = []) : d = d' := by
  induction h with
  | @here parent decls d hd =>
    generalize hpath : parent.child d.id = path at h'
    cases h' with
    | here hd' =>
      refine List.inj_on_of_nodup_map hnodup hd hd' ?_
      simpa [Path.child] using hpath
    | inside _ h' => exact absurd hpath.symm (h'.ne_child _)
  | @inside parent path decls blocks head d hmem h ih =>
    cases h' with
    | here => exact absurd rfl (h.ne_child _)
    | inside hmem' h' =>
      have heq := eq_of_isWithin hnodup hmem hmem' h.isWithin h'.isWithin
      cases heq
      cases lawful_of_within (withinAll_eq_nil_iff.1 hrules _ hmem) with
      | blocks _ _ _ hnodup _ hinside => exact ih h' hnodup hinside

theorem not_nil : ¬Declares parent [] path d := by
  intro h
  cases h with
  | here hd => cases hd
  | inside hmem => cases hmem

theorem cons_iff (rest : List BlockDecl) : Declares parent (d :: rest) path d' ↔
    Declares parent [d] path d' ∨ Declares parent rest path d' := by
  constructor
  · intro h
    cases h with
    | here hd =>
      obtain rfl | hd := List.mem_cons.1 hd
      · exact .inl (.here List.mem_cons_self)
      · exact .inr (.here hd)
    | inside hmem h =>
      obtain rfl | hmem := List.mem_cons.1 hmem
      · exact .inl (.inside List.mem_cons_self h)
      · exact .inr (.inside hmem h)
  · rintro (h | h)
    · exact h.mono (by simp)
    · exact h.mono (by simp)

theorem leaf_iff {head : BlockHead} :
    Declares parent [{ toBlockHead := head, blocks := none }] path d ↔
      path = parent.child head.id ∧ d = { toBlockHead := head, blocks := none } := by
  constructor
  · intro h
    cases h with
    | here hd => simp [List.mem_singleton.1 hd]
    | inside hmem => cases List.mem_singleton.1 hmem
  · rintro ⟨rfl, rfl⟩
    exact .here List.mem_cons_self

theorem branch_iff {head : BlockHead} {blocks : List BlockDecl} :
    Declares parent [{ toBlockHead := head, blocks := some blocks }] path d ↔
      (path = parent.child head.id ∧ d = { toBlockHead := head, blocks := some blocks }) ∨
        Declares (parent.child head.id) blocks path d := by
  constructor
  · intro h
    cases h with
    | here hd => simp [List.mem_singleton.1 hd]
    | inside hmem h =>
      cases List.mem_singleton.1 hmem
      exact .inr h
  · rintro (⟨rfl, rfl⟩ | h)
    · exact .here List.mem_cons_self
    · exact .inside List.mem_cons_self h

end Declares

/-- Blocks that stand side by side: on the top level of a script, or inside a declared block. -/
inductive Script.Siblings (s : Script) : Path → List BlockDecl → Prop where
  | top : s.Siblings .root s.blocks
  | inside {path : Path} {head : BlockHead} {blocks : List BlockDecl}
    (h : s.Declares path { toBlockHead := head, blocks := some blocks }) : s.Siblings path blocks

theorem Script.Siblings.withinAll_eq_nil {s : Script} {path : Path} {decls : List BlockDecl}
    (h : s.Siblings path decls) (hrules : Violation.withinAll s .root s.blocks = []) :
    Violation.withinAll s path decls = [] := by
  cases h with
  | top => exact hrules
  | inside h =>
    obtain ⟨outer, rfl, hwithin⟩ := h.within_eq_nil hrules
    exact Violation.withinAll_of_within hwithin

end Trials
