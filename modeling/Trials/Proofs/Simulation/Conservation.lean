import Trials.Proofs.Session.Transcript
import Trials.Proofs.Simulation.Balance

/-!
# A simulation accounts for its participants

Each participant sees every top-level block in one slot and pages that the script declares
(`Seen.Fits`).  So a participant adds one to the counts of each slot and to those of each top-level
block, and one to the first pages of a block just if a page of this block has been shown
(`simulation_accounts_for_participants`).  The report has a line for each of these rows
(`lines_of_simulate`).
-/

namespace Trials

open Experiment Simulation

namespace Session

variable {σ τ : Type} [OutcomeStore σ] [Participant τ] {pages : Nat} {s last : Session σ τ}
  {result : Except StoreError SessionStop}

/-- A session with a cap shows no more pages than it allows. -/
theorem Ends.length_le (h : Ends (some pages) s (result, last)) (hle : s.newest.length ≤ pages) :
    last.newest.length ≤ pages := by
  generalize hr : (result, last) = r at h
  induction h with
  | @stop s r hturn =>
    subst hr
    rcases eq_or_afterCall_of_turn hturn with rfl | rfl
    · exact hle
    · exact hle
  | @next s s' r hturn _ ih =>
    refine ih ?_ hr
    obtain ⟨page, -, rfl⟩ := exists_shown_of_turn hturn
    by_cases hlt : s.newest.length < pages
    · exact hlt
    · cases (turn_of_le (Nat.le_of_not_lt hlt)).symm.trans hturn

end Session

namespace SimulationSummary

variable {shown : List Path} {text page : String}

@[simp] theorem blockAndPage_child (path : Path) (id : String) :
    blockAndPage (path.child id) = some (path.text, id) := by
  simp [blockAndPage]

theorem nodup_keys_firstSeen (shown : List Path) : (Table.keys (firstSeen shown)).Nodup :=
  (Table.Ascending.foldl_alter (t := []) .nil _ _ _ _).nodup_keys

theorem text_mem_keys_firstSeen {path : Path} {id : String} (h : path.child id ∈ shown) :
    path.text ∈ Table.keys (firstSeen shown) := by
  rw [firstSeen, Table.mem_keys_foldl_alter]
  exact .inr ⟨(path.text, id), List.mem_filterMap.2 ⟨_, h, blockAndPage_child path id⟩, rfl⟩

theorem exists_of_mem_firstSeen (h : (text, page) ∈ firstSeen shown) :
    ∃ path ∈ shown, blockAndPage path = some (text, page) := by
  rw [← List.mem_filterMap]
  unfold firstSeen at h
  generalize shown.filterMap blockAndPage = pairs at h
  induction pairs using List.reverseRecOn with
  | nil => cases h
  | append_singleton pairs e ih =>
    rw [List.foldl_concat] at h
    rcases Table.mem_alter h with h | h | ⟨v, h, rfl⟩
    · rw [h]
      exact List.mem_concat_self
    · exact List.mem_append_left _ (ih h)
    · exact List.mem_append_left _ (ih h)

end SimulationSummary

open SimulationSummary

/-! ## What a participant can have seen -/

variable {s : Script} {c : SimulationConfig} {p : Seen} {path : Path} {d : BlockDecl}

/-- What is seen of a participant fits a script and a cap on the number of pages. -/
structure Seen.Fits (s : Script) (cap : Option Nat) (p : Seen) : Prop where
  top_perm : p.top.Perm (s.blocks.map (·.id))
  shown_declared : ∀ path ∈ p.shown, ∃ page, s.DeclaresPage path page
  length_le : ∀ pages, cap = some pages → p.shown.length ≤ pages

theorem Simulation.fits_of_seenBy {index : UInt32} (h : seenBy s c index = some p) :
    p.Fits s c.maxPages := by
  obtain ⟨e, stop, last, hbuild, hends, rfl⟩ := exists_ends_of_seenBy h
  obtain ⟨visits, current, hleads, hturn⟩ := hends.exists_leads .start
  have hshown : last.shown = visits.map (·.1.path) := (hleads.transcript.close hturn).shown_eq
  constructor
  case top_perm => exact topIds_perm hbuild
  case shown_declared =>
    rw [hshown]
    refine List.forall_mem_map.2 fun v hv => ?_
    obtain ⟨i, b, hb, hpage⟩ := (hleads.exists_block (ready_of_build hbuild).sound rfl).2 v hv
    obtain ⟨decl, hdecl, -⟩ := exists_declaresPage_of_build hbuild hb hpage
    exact ⟨decl, hdecl⟩
  case length_le =>
    intro pages hcap
    rw [hcap] at hends
    show last.newest.reverse.length ≤ pages
    rw [List.length_reverse]
    exact hends.length_le (Nat.zero_le pages)

/-- The path of a declared block can be read from its text. -/
theorem plain_of_declares {o : BuildOptions} {w : Words} {e : Experiment}
    (hbuild : build s o w = .ok e) (hd : s.Declares path d) : path.Plain := by
  obtain ⟨i, b, hb, rfl, -⟩ := exists_block_of_build hbuild hd
  exact (labelled_of_build hbuild).plain_path hb

namespace Seen.Fits

variable {cap : Option Nat} {text id : String}

/-- What is the first page of a block is a page that the block declares, and it has been shown. -/
theorem exists_of_mem_firsts (h : p.Fits s cap) (hmem : (text, id) ∈ p.firsts) :
    ∃ path d page, s.Declares path d ∧ page ∈ d.declaredPages ∧ path.child page.id ∈ p.shown ∧
      path.text = text ∧ page.id = id := by
  obtain ⟨shown, hshown, hpair⟩ := exists_of_mem_firstSeen hmem
  obtain ⟨page, path, d, hd, hpage, rfl⟩ := h.shown_declared shown hshown
  rw [blockAndPage_child, Option.some.injEq, Prod.mk.injEq] at hpair
  exact ⟨path, d, page, hd, hpage, hshown, hpair⟩

theorem exists_page_of_mem_firsts (h : p.Fits s cap) (hrules : s.violations = [])
    (hplain : ∀ path d, s.Declares path d → path.Plain) (hd : s.Declares path d)
    (hmem : (path.text, id) ∈ p.firsts) :
    ∃ page ∈ d.declaredPages, page.id = id ∧ path.child page.id ∈ p.shown := by
  obtain ⟨path', d', page, hd', hpage, hshown, htext, hid⟩ := h.exists_of_mem_firsts hmem
  obtain rfl := (Path.text_inj (hplain _ _ hd') (hplain _ _ hd)).1 htext
  obtain rfl := Script.eq_of_declares hrules hd hd'
  exact ⟨page, hpage, hid, hshown⟩

/-- A block has a first page just if one of its pages has been shown. -/
theorem countP_firsts (h : p.Fits s cap) (hrules : s.violations = [])
    (hplain : ∀ path d, s.Declares path d → path.Plain) (hd : s.Declares path d) :
    p.firsts.countP (fun e => e.1 = path.text) =
      if ∃ page ∈ d.declaredPages, path.child page.id ∈ p.shown then 1 else 0 := by
  have hnodup : (p.firsts.map (·.1)).Nodup := nodup_keys_firstSeen p.shown
  rw [countP_key hnodup]
  refine if_congr ⟨fun hmem => ?_, ?_⟩ rfl rfl
  · obtain ⟨⟨text, id⟩, hmem, rfl : text = path.text⟩ := List.mem_map.1 hmem
    obtain ⟨page, hpage, -, hshown⟩ := h.exists_page_of_mem_firsts hrules hplain hd hmem
    exact ⟨page, hpage, hshown⟩
  · rintro ⟨page, -, hshown⟩
    exact text_mem_keys_firstSeen hshown

theorem length_top (h : p.Fits s cap) : p.top.length = s.blocks.length := by
  rw [h.top_perm.length_eq, List.length_map]

/-- In each slot there is one block. -/
theorem countP_slot (h : p.Fits s cap) {slot : Nat} (hslot : slot < s.blocks.length) :
    p.placements.countP (fun e => e.1 = slot) = 1 := by
  have hmap := map_fst_placements p
  rw [h.length_top] at hmap
  rw [countP_key (hmap ▸ List.nodup_range), hmap, if_pos (List.mem_range.2 hslot)]

/-- Each top-level block is in one slot. -/
theorem countP_block (h : p.Fits s cap) (hrules : s.violations = []) (hd : d ∈ s.blocks) :
    p.placements.countP (fun e => e.2 = d.id) = 1 := by
  have hmap := map_snd_placements p
  have hnodup : p.top.Nodup := h.top_perm.nodup_iff.2 (nodup_ids_of_violations hrules)
  have hmem : d.id ∈ p.top := h.top_perm.mem_iff.2 (List.mem_map_of_mem hd)
  rw [countP_key (hmap ▸ hnodup), hmap, if_pos hmem]

end Seen.Fits

/-! ## The main result -/

/-- The summary of a simulation accounts for each participant. -/
structure SimulationSummary.AccountsFor (s : Script) (c : SimulationConfig) (seen : List Seen)
    (summary : SimulationSummary) : Prop where
  participants_eq : summary.participants = c.participants.toNat
  /-- There is a row for each slot of the top level. -/
  slots_eq : summary.slots.keys = List.range s.blocks.length
  /-- In each slot there is one block for each participant. -/
  slot_total : ∀ slot < s.blocks.length, (summary.slots.row slot).total = c.participants.toNat
  /-- Each top-level block is in one slot for each participant. -/
  block_total : ∀ d ∈ s.blocks, summary.slots.columnTotal d.id = c.participants.toNat
  completed_le : summary.completed ≤ c.participants.toNat
  pagesShown_le : ∀ pages, c.maxPages = some pages →
    summary.pagesShown ≤ c.participants.toNat * pages
  /-- The first pages of a block are as many as the participants to whom one of its pages has been
  shown. -/
  first_total : ∀ path d, s.Declares path d → (summary.firstPages.row path.text).total =
    seen.countP fun p => ∃ page ∈ d.declaredPages, path.child page.id ∈ p.shown
  /-- They are pages that the block declares. -/
  first_declared : ∀ path d, s.Declares path d → ∀ n ∈ summary.firstPages.row path.text,
    ∃ page ∈ d.declaredPages, page.id = n.1
  /-- No others are counted than those of the declared blocks. -/
  first_keys : ∀ text ∈ summary.firstPages.keys, ∃ path d, s.Declares path d ∧ path.text = text

/-- The slots in which a block has been are those of the top level. -/
theorem exists_placement_iff {cap : Option Nat} {seen : List Seen} (hne : seen ≠ [])
    (hfits : ∀ p ∈ seen, p.Fits s cap) {slot : Nat} :
    (∃ e ∈ seen.flatMap (·.placements), e.1 = slot) ↔ slot < s.blocks.length := by
  constructor
  · rintro ⟨e, he, rfl⟩
    obtain ⟨p, hp, he⟩ := List.mem_flatMap.1 he
    have hslot : e.1 ∈ p.placements.map (·.1) := List.mem_map_of_mem he
    rwa [map_fst_placements, (hfits p hp).length_top, List.mem_range] at hslot
  · intro hslot
    obtain ⟨p, hp⟩ := List.exists_mem_of_ne_nil seen hne
    rw [← (hfits p hp).length_top, ← List.mem_range, ← map_fst_placements] at hslot
    obtain ⟨e, he, rfl⟩ := List.mem_map.1 hslot
    exact ⟨e, List.mem_flatMap_of_mem hp he, rfl⟩

/-- What is counted of participants who fit a script accounts for each of them. -/
theorem accountsFor_ofSeen {seen : List Seen} (hlength : seen.length = c.participants.toNat)
    (hne : seen ≠ []) (hfits : ∀ p ∈ seen, p.Fits s c.maxPages) (hrules : s.violations = [])
    (hplain : ∀ path d, s.Declares path d → path.Plain) :
    (ofSeen seen).AccountsFor s c seen := by
  constructor
  case participants_eq => exact hlength
  case slots_eq =>
    refine (Table.counted_tabulate _).outer.keys_eq ?_ fun slot => ?_
    · exact List.pairwise_lt_range.imp fun hlt => Nat.compare_eq_lt.2 hlt
    · rw [Table.mem_keys_tabulate, List.mem_range]
      exact exists_placement_iff hne hfits
  case slot_total =>
    intro slot hslot
    show ((Table.tabulate _).row slot).total = _
    rw [Table.total_row_tabulate, countP_flatMap (p := fun _ => true), List.countP_true, hlength]
    exact fun p hp => (hfits p hp).countP_slot hslot
  case block_total =>
    intro d hd
    show Table.columnTotal d.id (Table.tabulate _) = _
    rw [Table.columnTotal_tabulate, countP_flatMap (p := fun _ => true), List.countP_true, hlength]
    exact fun p hp => (hfits p hp).countP_block hrules hd
  case completed_le =>
    rw [← hlength]
    exact List.countP_le_length
  case pagesShown_le =>
    intro pages hcap
    have hsum := List.sum_le_card_nsmul (seen.map (·.shown.length)) pages
    rw [List.length_map, hlength, List.forall_mem_map] at hsum
    exact hsum fun p hp => (hfits p hp).length_le pages hcap
  case first_total =>
    intro path d hd
    show ((Table.tabulate _).row path.text).total = _
    rw [Table.total_row_tabulate, countP_flatMap]
    intro p hp
    rw [(hfits p hp).countP_firsts hrules hplain hd]
    simp only [decide_eq_true_eq]
  case first_declared =>
    intro path d hd n hn
    obtain ⟨p, hp, hmem⟩ := List.mem_flatMap.1 (Table.mem_of_mem_row hn)
    obtain ⟨page, hpage, hid, -⟩ := (hfits p hp).exists_page_of_mem_firsts hrules hplain hd hmem
    exact ⟨page, hpage, hid⟩
  case first_keys =>
    intro text htext
    obtain ⟨e, he, rfl⟩ := Table.mem_keys_tabulate.1 htext
    obtain ⟨p, hp, hmem⟩ := List.mem_flatMap.1 he
    obtain ⟨path, d, page, hd, -, -, htext, -⟩ := (hfits p hp).exists_of_mem_firsts hmem
    exact ⟨path, d, hd, htext⟩

/-- What is counted of all participants of a pool, which are some, accounts for each of them. -/
theorem accountsFor_of_seenByAll {seen : List Seen} (hseen : seenByAll s c = some seen)
    (hpos : c.participants ≠ 0) : (ofSeen seen).AccountsFor s c seen := by
  have hlength := length_of_seenByAll hseen
  have hne : seen ≠ [] := by
    rintro rfl
    exact hpos (UInt32.toNat_inj.1 hlength.symm)
  obtain ⟨p, hp⟩ := List.exists_mem_of_ne_nil seen hne
  obtain ⟨index, hindex⟩ := exists_seenBy_of_mem hseen hp
  obtain ⟨e, -, -, hbuild, -, -⟩ := exists_ends_of_seenBy hindex
  refine accountsFor_ofSeen hlength hne ?_ (violations_eq_nil_of_build hbuild).2 ?_
  · intro p hp
    obtain ⟨index, hindex⟩ := exists_seenBy_of_mem hseen hp
    exact fits_of_seenBy hindex
  · exact fun path d hd => plain_of_declares hbuild hd

/-- The report on a simulation says how many participants there were and how many of them came to
the end, and how many pages were shown to one of them on average.  Then there is a line for each slot
of the top level and one for each block of which pages were shown, with the counts in this row. -/
theorem lines_of_simulate {sim : Simulation} (hsim : simulate s c = .ok sim) :
    sim.summary.lines =
      ["report: participants=" ++ toString c.participants.toNat ++ " completed=" ++
          toString sim.summary.completed,
        "report: mean_pages=" ++ ((Binary64.ofNat sim.summary.pagesShown).div
          (.ofNat c.participants.toNat)).toFixed2] ++
      ((List.range s.blocks.length).map fun slot =>
        "report: slot " ++ toString slot ++ " " ++ countsText (sim.summary.slots.row slot)) ++
      sim.summary.firstPages.keys.map fun text =>
        "report: first " ++ text ++ " " ++ countsText (sim.summary.firstPages.row text) := by
  obtain ⟨seen, hseen, hsummary⟩ := exists_seen_of_simulate hsim
  have hpos := participants_ne_zero_of_simulate hsim
  have haccounts := accountsFor_of_seenByAll hseen hpos
  have hslots : (ofSeen seen).slots.Ascending := (Table.counted_tabulate _).outer
  have hfirst : (ofSeen seen).firstPages.Ascending := (Table.counted_tabulate _).outer
  have hmean : (ofSeen seen).meanPages = some
      ((Binary64.ofNat (ofSeen seen).pagesShown).div (.ofNat c.participants.toNat)) := by
    rw [meanPages, haccounts.participants_eq, if_neg]
    exact fun hzero => hpos (UInt32.toNat_inj.1 hzero)
  rw [hsummary, lines, hmean, haccounts.participants_eq, ← haccounts.slots_eq]
  rw [hslots.map_eq fun slot counts =>
      "report: slot " ++ toString slot ++ " " ++ countsText counts,
    hfirst.map_eq fun text counts => "report: first " ++ text ++ " " ++ countsText counts]
  rfl

example : ({ participants := 4, completed := 3, pagesShown := 10
             slots := [(0, [("a", 3), ("b", 1)]), (1, [("a", 1), ("b", 3)])]
             firstPages := [("a", [("p", 4)])] } : SimulationSummary).lines =
    ["report: participants=4 completed=3", "report: mean_pages=2.50", "report: slot 0 a=3 b=1",
      "report: slot 1 a=1 b=3", "report: first a p=4"] := by
  decide +kernel

/-- A simulation that comes to a result accounts for each participant. -/
theorem simulation_accounts_for_participants {sim : Simulation} (hsim : simulate s c = .ok sim) :
    ∃ seen, seenByAll s c = some seen ∧ sim.summary.AccountsFor s c seen := by
  obtain ⟨seen, hseen, hsummary⟩ := exists_seen_of_simulate hsim
  refine ⟨seen, hseen, ?_⟩
  rw [hsummary]
  exact accountsFor_of_seenByAll hseen (participants_ne_zero_of_simulate hsim)

/-- The four participants are accounted for in each of the three slots and for each block. -/
theorem rotating_accounted : ∃ sim seen, simulate rotating smallPool = .ok sim ∧
    seenByAll rotating smallPool = some seen ∧ sim.summary.participants = 4 ∧
    sim.summary.slots.keys = [0, 1, 2] ∧ (∀ slot < 3, (sim.summary.slots.row slot).total = 4) ∧
    sim.summary.slots.columnTotal "a" = 4 ∧ sim.summary.completed ≤ 4 ∧
    (sim.summary.firstPages.row "end").total =
      seen.countP fun p => ∃ id ∈ ["r"], Path.mk ["end", id] ∈ p.shown := by
  obtain ⟨sim, hsim⟩ := exists_simulate_rotating
  obtain ⟨seen, hseen, h⟩ := simulation_accounts_for_participants hsim
  have hfirst : ({ id := "a", pages := some [{ id := "p" }] } : BlockDecl) ∈ rotating.blocks :=
    List.mem_cons_self
  have hlast : ({ id := "end", pages := some [{ id := "r" }] } : BlockDecl) ∈ rotating.blocks :=
    List.mem_cons_of_mem _ (List.mem_cons_of_mem _ List.mem_cons_self)
  have hcolumn := h.block_total _ hfirst
  refine ⟨sim, seen, hsim, hseen, h.participants_eq, h.slots_eq, h.slot_total, hcolumn,
    h.completed_le, ?_⟩
  refine (h.first_total _ _ (.here hlast)).trans (List.countP_congr fun p _ => ?_)
  simp [BlockDecl.declaredPages, BlockDecl.content, Path.child, Path.root]

end Trials
