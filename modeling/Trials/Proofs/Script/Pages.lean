import Trials.Proofs.Script.Rules
import Trials.RunIf

/-!
# Declared pages

Where a script declares pages, and that the walk for pages with an identifier (`Script.pagePaths`)
finds all of them and nothing else.  A page that a rule names is therefore the only one with its
identifier (`Script.DeclaresOnce`).
-/

namespace Trials

/-- The page that a rule names, if it names one. -/
def RunRule.page? : RunRule → Option String
  | .selected page _ => some page
  | .matched page _ => some page
  | .permutation _ => none

variable {parent target : Path} {id : String}

theorem mem_ownPagePaths_iff {d : BlockDecl} {path : Path} :
    target ∈ d.ownPagePaths path id ↔
      ∃ page ∈ d.declaredPages, page.id = id ∧ path.child page.id = target := by
  simp [BlockDecl.ownPagePaths, and_assoc]

mutual

theorem mem_pagePaths_iff {parent : Path} : ∀ {d : BlockDecl}, target ∈ d.pagePaths parent id ↔
    ∃ outer d', Declares parent [d] outer d' ∧
      ∃ page ∈ d'.declaredPages, page.id = id ∧ outer.child page.id = target
  | { toBlockHead := head, blocks := none } => by
    simp [BlockDecl.pagePaths, mem_ownPagePaths_iff, Declares.leaf_iff]
  | { toBlockHead := head, blocks := some blocks } => by
    simp [BlockDecl.pagePaths, mem_ownPagePaths_iff, mem_pagePathsIn_iff, Declares.branch_iff,
      or_and_right, exists_or]

theorem mem_pagePathsIn_iff {parent : Path} : ∀ {decls : List BlockDecl},
    target ∈ BlockDecl.pagePathsIn parent id decls ↔
      ∃ outer d, Declares parent decls outer d ∧
        ∃ page ∈ d.declaredPages, page.id = id ∧ outer.child page.id = target
  | [] => by simp [BlockDecl.pagePathsIn, Declares.not_nil]
  | d :: rest => by
    simp [BlockDecl.pagePathsIn, mem_pagePaths_iff, mem_pagePathsIn_iff, or_and_right, exists_or,
      Declares.cons_iff rest]

end

namespace Script

/-- A script declares a page at a path: the path of the block that declares it, and the page's
identifier. -/
def DeclaresPage (s : Script) (path : Path) (page : PageDecl) : Prop :=
  ∃ outer d, s.Declares outer d ∧ page ∈ d.declaredPages ∧ outer.child page.id = path

/-- A script declares one page with an identifier, at the path `target`. -/
structure DeclaresOnce (s : Script) (id : String) (target : Path) : Prop where
  declared : ∃ page, s.DeclaresPage target page ∧ page.id = id
  unique : ∀ {path path' : Path} {page page' : PageDecl}, s.DeclaresPage path page → page.id = id →
    s.DeclaresPage path' page' → page'.id = id → path = path' ∧ page = page'

variable {s : Script} {path path' : Path} {page page' : PageDecl}

theorem mem_pagePaths_iff : target ∈ s.pagePaths id ↔
    ∃ page, s.DeclaresPage target page ∧ page.id = id := by
  rw [pagePaths, mem_pagePathsIn_iff]
  constructor
  · rintro ⟨outer, d, hd, page, hpage, hid, rfl⟩
    exact ⟨page, ⟨outer, d, hd, hpage, rfl⟩, hid⟩
  · rintro ⟨page, ⟨outer, d, hd, hpage, rfl⟩, hid⟩
    exact ⟨outer, d, hd, page, hpage, hid, rfl⟩

theorem eq_of_declares {d d' : BlockDecl} (hrules : s.violations = []) (h : s.Declares path d)
    (h' : s.Declares path d') : d = d' := by
  obtain ⟨hsiblings, hblocks⟩ := List.append_eq_nil_iff.1 hrules
  have hids := (List.append_eq_nil_iff.1 (List.map_eq_nil_iff.1 hsiblings)).1
  exact h.unique h' (Violation.nodup_of_idsFaults hids).1 hblocks

/-- In a script that breaks no rule a path stands for one page. -/
theorem DeclaresPage.unique (h : s.DeclaresPage path page) (h' : s.DeclaresPage path page')
    (hrules : s.violations = []) : page = page' := by
  obtain ⟨outer, d, hd, hpage, rfl⟩ := h
  obtain ⟨outer', d', hd', hpage', hpath⟩ := h'
  obtain ⟨rfl, hid⟩ := Path.child_inj.1 hpath
  obtain rfl := eq_of_declares hrules hd hd'
  obtain ⟨parent, -, hwithin⟩ := hd.within_eq_nil (List.append_eq_nil_iff.1 hrules).2
  have hnodup := (Violation.nodup_of_idsFaults (Violation.idsFaults_pages hwithin)).1
  exact List.inj_on_of_nodup_map hnodup hpage hpage' hid.symm

/-- The page that an identifier is resolved to is the only one that has it. -/
theorem declaresOnce_of_resolvePage (hrules : s.violations = [])
    (h : s.resolvePage id = .ok target) : s.DeclaresOnce id target := by
  have hpaths : s.pagePaths id = [target] := by
    unfold resolvePage at h
    split at h
    next path hpaths =>
      cases h
      exact hpaths
    · cases h
    · cases h
  have htarget {path : Path} {page : PageDecl} (hpage : s.DeclaresPage path page)
      (hid : page.id = id) : path = target := by
    have hmem := mem_pagePaths_iff.2 ⟨page, hpage, hid⟩
    rw [hpaths] at hmem
    exact List.mem_singleton.1 hmem
  constructor
  · apply mem_pagePaths_iff.1
    rw [hpaths]
    exact List.mem_singleton_self target
  · intro path path' page page' hpage hid hpage' hid'
    obtain rfl := htarget hpage hid
    obtain rfl := htarget hpage' hid'
    exact ⟨rfl, hpage.unique hpage' hrules⟩

end Script

end Trials
