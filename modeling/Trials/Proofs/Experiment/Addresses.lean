import Trials.Proofs.Experiment.Labels
import Trials.Proofs.Experiment.Reachable

/-!
# Paths are addresses

In an experiment that has been built, a path is the address of one block or of one page
(`BlockTable.Addressed`): different ones have different paths, and these have different texts.  A
page's path is within a block's path if and only if the page stands within the block, so that the
outcomes that are found beneath a block's path are those of the pages within it
(`BlockTable.Recorded`).
-/

namespace Trials

namespace BlockTable

variable {t t' : BlockTable} {i j place : Nat} {b d : Block} {p : Page}

/-- All blocks are labelled, those of the top level beneath the root. -/
structure Labelled (t : BlockTable) : Prop where
  sound : t.Sound
  block : ∀ {i : Nat} {b : Block}, t[i]? = some b → b.Labelled t
  roots : ∃ numbers, t.Siblings .root numbers ∧
    ∀ {i : Nat} {b : Block}, t[i]? = some b → b.parent = none → i ∈ numbers

namespace Labelled

theorem of_shapes (h : t.Labelled) (hs : t'.shapes = t.shapes) (hsound : t'.Sound) :
    t'.Labelled where
  sound := hsound
  block := by
    intro i b' hb'
    obtain ⟨b, hb, hshape⟩ := exists_of_shapes hs.symm hb'
    obtain ⟨hinfo, -, hcontent⟩ := Block.shape_inj.1 hshape
    obtain ⟨hblocks, hpages, hnodup⟩ := h.block hb
    rw [hinfo, hcontent] at hblocks
    rw [hinfo, hcontent] at hpages
    rw [hcontent] at hnodup
    exact ⟨hblocks.of_shapes hs, hpages, hnodup⟩
  roots := by
    obtain ⟨numbers, hsiblings, hmem⟩ := h.roots
    refine ⟨numbers, hsiblings.of_shapes hs, fun hb hnone => ?_⟩
    obtain ⟨b, hb, hshape⟩ := exists_of_shapes hs.symm hb
    exact hmem hb ((Block.shape_inj.1 hshape).2.1.trans hnone)

/-! ## Paths of blocks -/

theorem root (h : t.Labelled) (hb : t[i]? = some b) (hnone : b.parent = none) :
    Path.PlainId b.info.id ∧ b.info.path = Path.root.child b.info.id := by
  obtain ⟨numbers, hsiblings, hmem⟩ := h.roots
  obtain ⟨b', hb', hlabel⟩ := hsiblings.named i (hmem hb hnone)
  cases hb.symm.trans hb'
  exact hlabel

theorem inside (h : t.Labelled) {c q : Nat} (hd : t[c]? = some d) (hq : d.parent = some q) :
    ∃ b, t[q]? = some b ∧ c ∈ b.content.children ∧ Path.PlainId d.info.id ∧
      d.info.path = b.info.path.child d.info.id := by
  obtain ⟨-, b, hb, hc⟩ := h.sound.mem_of_inside ⟨d, hd, hq⟩
  obtain ⟨d', hd', hlabel⟩ := (h.block hb).blocks.named c hc
  cases hd.symm.trans hd'
  exact ⟨b, hb, hc, hlabel⟩

theorem path_ne_root (h : t.Labelled) (hb : t[i]? = some b) : b.info.path ≠ Path.root := by
  cases hparent : b.parent with
  | none =>
    rw [(h.root hb hparent).2]
    exact Path.child_ne_root _ _
  | some q =>
    obtain ⟨outer, -, -, -, hpath⟩ := h.inside hb hparent
    rw [hpath]
    exact Path.child_ne_root _ _

theorem plain_path (h : t.Labelled) (hb : t[i]? = some b) : b.info.path.Plain := by
  induction i using Nat.strongRecOn generalizing b with
  | ind i ih =>
    cases hparent : b.parent with
    | none =>
      obtain ⟨hid, hpath⟩ := h.root hb hparent
      rw [hpath]
      exact Path.plain_root.child hid
    | some q =>
      obtain ⟨outer, houter, hmem, hid, hpath⟩ := h.inside hb hparent
      rw [hpath]
      exact (ih q (h.sound.lt_of_inside ⟨b, hb, hparent⟩) houter).child hid

/-- Different blocks have different paths. -/
theorem eq_of_path_eq (h : t.Labelled) (hb : t[i]? = some b) (hd : t[j]? = some d)
    (hpath : b.info.path = d.info.path) : i = j := by
  induction i using Nat.strongRecOn generalizing b j d with
  | ind i ih =>
    cases hparent : b.parent with
    | none =>
      obtain ⟨-, hbpath⟩ := h.root hb hparent
      cases hparent' : d.parent with
      | none =>
        obtain ⟨-, hdpath⟩ := h.root hd hparent'
        rw [hbpath, hdpath, Path.child_inj] at hpath
        obtain ⟨numbers, hsiblings, hmem⟩ := h.roots
        exact hsiblings.unique (hmem hb hparent) (hmem hd hparent') hb hd hpath.2
      | some q =>
        obtain ⟨outer, houter, -, -, hdpath⟩ := h.inside hd hparent'
        rw [hbpath, hdpath, Path.child_inj] at hpath
        exact absurd hpath.1.symm (h.path_ne_root houter)
    | some q =>
      obtain ⟨outer, houter, hi, -, hbpath⟩ := h.inside hb hparent
      cases hparent' : d.parent with
      | none =>
        obtain ⟨-, hdpath⟩ := h.root hd hparent'
        rw [hbpath, hdpath, Path.child_inj] at hpath
        exact absurd hpath.1 (h.path_ne_root houter)
      | some q' =>
        obtain ⟨outer', houter', hj, -, hdpath⟩ := h.inside hd hparent'
        rw [hbpath, hdpath, Path.child_inj] at hpath
        obtain rfl := ih q (h.sound.lt_of_inside ⟨b, hb, hparent⟩) houter houter' hpath.1
        cases houter.symm.trans houter'
        exact (h.block houter).blocks.unique hi hj hb hd hpath.2

/-- A block's path is within another one's if and only if it stands within that block. -/
theorem isWithin_iff (h : t.Labelled) (hb : t[i]? = some b) (hd : t[j]? = some d) :
    d.info.path.isWithin b.info.path = true ↔ t.Within j i := by
  induction j using Nat.strongRecOn generalizing d with
  | ind j ih =>
    have hself : b.info.path = d.info.path → t.Within j i := by
      intro hpath
      obtain rfl := h.eq_of_path_eq hb hd hpath
      exact .refl
    cases hparent : d.parent with
    | none =>
      obtain ⟨-, hpath⟩ := h.root hd hparent
      constructor
      · intro hwithin
        rw [hpath, Path.isWithin_child_iff, ← hpath] at hwithin
        obtain heq | hroot := hwithin
        · exact hself heq
        · have hnil := List.prefix_nil.1 (Path.isWithin_iff.1 hroot)
          exact absurd (congrArg Path.mk hnil) (h.path_ne_root hb)
      · intro hwithin
        obtain rfl | ⟨q, hq, -⟩ := Relation.ReflTransGen.cases_head hwithin
        · cases hb.symm.trans hd
          exact Path.isWithin_self _
        · obtain ⟨d', hd', hq⟩ := hq
          cases hd.symm.trans hd'
          cases hparent.symm.trans hq
    | some q =>
      obtain ⟨outer, houter, -, -, hpath⟩ := h.inside hd hparent
      have hlt := h.sound.lt_of_inside ⟨d, hd, hparent⟩
      constructor
      · intro hwithin
        rw [hpath, Path.isWithin_child_iff, ← hpath] at hwithin
        obtain heq | hwithin := hwithin
        · exact hself heq
        · exact .head ⟨d, hd, hparent⟩ ((ih q hlt houter).1 hwithin)
      · intro hwithin
        obtain rfl | ⟨q', hq', hrest⟩ := Relation.ReflTransGen.cases_head hwithin
        · cases hb.symm.trans hd
          exact Path.isWithin_self _
        · obtain rfl := hq'.unique ⟨d, hd, hparent⟩
          rw [hpath, Path.isWithin_child_iff]
          exact .inr ((ih q' hlt houter).2 hrest)

/-! ## Paths of pages -/

/-- A page's path is no block's path. -/
theorem path_ne_child (h : t.Labelled) (hb : t[i]? = some b) (hd : t[j]? = some d)
    (hp : p ∈ d.content.shown) (id : String) : b.info.path ≠ d.info.path.child id := by
  intro heq
  cases hparent : b.parent with
  | none =>
    rw [(h.root hb hparent).2, Path.child_inj] at heq
    exact h.path_ne_root hd heq.1.symm
  | some q =>
    obtain ⟨outer, houter, hi, -, hpath⟩ := h.inside hb hparent
    rw [hpath, Path.child_inj] at heq
    obtain rfl := h.eq_of_path_eq houter hd heq.1
    cases houter.symm.trans hd
    cases hcontent : d.content with
    | blocks numbers =>
      rw [hcontent] at hp
      cases hp
    | pages pages pseudorandom =>
      rw [hcontent] at hi
      cases hi

/-- A page's path is within a block's path if and only if the page stands within the block. -/
theorem isWithin_page_iff (h : t.Labelled) (hb : t[i]? = some b) (hd : t[j]? = some d)
    (hp : p ∈ d.content.shown) : p.path.isWithin b.info.path = true ↔ t.Within j i := by
  rw [((h.block hd).pages p hp).2, Path.isWithin_child_iff, h.isWithin_iff hb hd]
  exact or_iff_right (h.path_ne_child hb hd hp _)

end Labelled

/-! ## Addresses -/

/-- A block or a page of an experiment, a page being known by its block and its place there. -/
inductive Item where
  | block (number : Nat)
  | page (number place : Nat)

/-- The path of a block or a page. -/
def pathOf? (t : BlockTable) : Item → Option Path
  | .block number => t[number]?.map (·.info.path)
  | .page number place => t[number]?.bind fun b => b.content.shown[place]?.map (·.path)

theorem pathOf?_block {path : Path} (h : t.pathOf? (.block i) = some path) :
    ∃ b, t[i]? = some b ∧ b.info.path = path := Option.map_eq_some_iff.1 h

theorem pathOf?_page {path : Path} (h : t.pathOf? (.page i place) = some path) :
    ∃ b p, t[i]? = some b ∧ b.content.shown[place]? = some p ∧ p.path = path := by
  obtain ⟨b, hb, hp⟩ := Option.bind_eq_some_iff.1 h
  obtain ⟨p, hp, hpath⟩ := Option.map_eq_some_iff.1 hp
  exact ⟨b, p, hb, hp, hpath⟩

theorem Labelled.plain_pathOf? (h : t.Labelled) {x : Item} {path : Path}
    (hx : t.pathOf? x = some path) : path.Plain := by
  cases x with
  | block i =>
    obtain ⟨b, hb, rfl⟩ := pathOf?_block hx
    exact h.plain_path hb
  | page i place =>
    obtain ⟨b, p, hb, hp, rfl⟩ := pathOf?_page hx
    obtain ⟨hid, hpath⟩ := (h.block hb).pages p (List.mem_of_getElem? hp)
    rw [hpath]
    exact (h.plain_path hb).child hid

/-- Different items have different paths. -/
theorem Labelled.item_eq (h : t.Labelled) {x y : Item} {path : Path}
    (hx : t.pathOf? x = some path) (hy : t.pathOf? y = some path) : x = y := by
  cases x with
  | block i =>
    obtain ⟨b, hb, rfl⟩ := pathOf?_block hx
    cases y with
    | block j =>
      obtain ⟨d, hd, hpath⟩ := pathOf?_block hy
      rw [h.eq_of_path_eq hb hd hpath.symm]
    | page j place =>
      obtain ⟨d, p, hd, hp, hpath⟩ := pathOf?_page hy
      have hmem := List.mem_of_getElem? hp
      rw [((h.block hd).pages p hmem).2] at hpath
      exact absurd hpath.symm (h.path_ne_child hb hd hmem _)
  | page i place =>
    obtain ⟨b, p, hb, hp, rfl⟩ := pathOf?_page hx
    have hmem := List.mem_of_getElem? hp
    obtain ⟨-, hppath⟩ := (h.block hb).pages p hmem
    cases y with
    | block j =>
      obtain ⟨d, hd, hpath⟩ := pathOf?_block hy
      rw [hppath] at hpath
      exact absurd hpath (h.path_ne_child hd hb hmem _)
    | page j place' =>
      obtain ⟨d, p', hd, hp', hpath⟩ := pathOf?_page hy
      obtain ⟨-, hppath'⟩ := (h.block hd).pages p' (List.mem_of_getElem? hp')
      rw [hppath, hppath', Path.child_inj] at hpath
      obtain rfl := h.eq_of_path_eq hd hb hpath.1
      cases hb.symm.trans hd
      have hid : (b.content.shown.map (·.id))[place]? = (b.content.shown.map (·.id))[place']? := by
        rw [List.getElem?_map, List.getElem?_map, hp, hp', Option.map_some, Option.map_some,
          hpath.2]
      have hlt : place < (b.content.shown.map (·.id)).length := by
        rw [List.length_map]
        exact (List.getElem?_eq_some_iff.1 hp).1
      rw [(List.getElem?_inj hlt (h.block hb).nodup_pages).1 hid]

/-! ## Recorded responses -/

/-- A response to a page. -/
structure Visit where
  number : Nat
  place : Nat
  response : Response

/-- A store has recorded responses to pages, oldest first, and nothing else. -/
inductive Recorded (t : BlockTable) : List Visit → MemoryStore → Prop where
  | start : Recorded t [] {}
  | record {visits : List Visit} {store : MemoryStore} {path : Path} (visit : Visit)
    (h : Recorded t visits store)
    (hpath : t.pathOf? (.page visit.number visit.place) = some path) :
    Recorded t (visits ++ [visit]) (OutcomeStore.record store path visit.response)

open Classical in
/-- The grades of the pages within a block, in the order of the responses. -/
noncomputable def gradesWithin (t : BlockTable) (i : Nat) (visits : List Visit) : List Bool :=
  visits.filterMap fun visit => if t.Within visit.number i then visit.response.correct else none

open Classical in
/-- A response is found beneath the path of a block if it is one to a page within the block. -/
theorem Labelled.history_record (h : t.Labelled) {path outer : Path}
    (hblock : t.pathOf? (.block i) = some outer) (hpage : t.pathOf? (.page j place) = some path)
    (store : MemoryStore) (response : Response) :
    (OutcomeStore.answers (OutcomeStore.record store path response)).history outer =
      (OutcomeStore.answers store).history outer ++
        if t.Within j i then response.correct.toList else [] := by
  obtain ⟨b, hb, rfl⟩ := pathOf?_block hblock
  obtain ⟨d, p, hd, hp, rfl⟩ := pathOf?_page hpage
  have hwithin := h.isWithin_page_iff hb hd (List.mem_of_getElem? hp)
  have hcons := Record.history_cons ⟨p.path, response⟩ store.newest b.info.path
  rw [if_congr hwithin rfl rfl] at hcons
  exact hcons

theorem Labelled.history_recorded (h : t.Labelled) {path : Path} {visits : List Visit}
    {store : MemoryStore} (hblock : t.pathOf? (.block i) = some path)
    (hrecorded : t.Recorded visits store) :
    (OutcomeStore.answers store).history path = t.gradesWithin i visits := by
  induction hrecorded with
  | start => rfl
  | record visit _ hpage ih =>
    rw [h.history_record hblock hpage, ih, gradesWithin, gradesWithin, List.filterMap_append]
    congr 1
    by_cases hwithin : t.Within visit.number i
    · cases hcorrect : visit.response.correct <;> simp [hwithin, hcorrect]
    · simp [hwithin]

/-- Paths are addresses of blocks and pages. -/
structure Addressed (t : BlockTable) : Prop where
  /-- Different blocks and pages have different paths. -/
  item_eq : ∀ {x y : Item} {path : Path}, t.pathOf? x = some path → t.pathOf? y = some path → x = y
  /-- Different blocks and pages have paths with different texts. -/
  item_eq_of_text : ∀ {x y : Item} {p q : Path}, t.pathOf? x = some p → t.pathOf? y = some q →
    p.text = q.text → x = y
  /-- A path is read back from its text. -/
  parse_text : ∀ {x : Item} {p : Path}, t.pathOf? x = some p → Path.parse p.text = p
  /-- A page's path is within a block's path if and only if the page stands within the block. -/
  isWithin_iff : ∀ {i j place : Nat} {outer p : Path}, t.pathOf? (.block i) = some outer →
    t.pathOf? (.page j place) = some p → (p.isWithin outer = true ↔ t.Within j i)
  /-- The outcomes found beneath a block's path are those of the pages within it. -/
  history : ∀ {i : Nat} {outer : Path} {visits : List Visit} {store : MemoryStore},
    t.pathOf? (.block i) = some outer → t.Recorded visits store →
    (OutcomeStore.answers store).history outer = t.gradesWithin i visits
  /-- Responses to other pages do not change them, whatever has been recorded before. -/
  history_record : ∀ {i j place : Nat} {outer p : Path}, t.pathOf? (.block i) = some outer →
    t.pathOf? (.page j place) = some p → ¬ t.Within j i →
    ∀ (store : MemoryStore) (response : Response),
      (OutcomeStore.answers (OutcomeStore.record store p response)).history outer =
        (OutcomeStore.answers store).history outer

theorem Labelled.addressed (h : t.Labelled) : t.Addressed where
  item_eq := h.item_eq
  item_eq_of_text := by
    intro x y p q hx hy htext
    rw [Path.text_inj (h.plain_pathOf? hx) (h.plain_pathOf? hy)] at htext
    exact h.item_eq hx (htext ▸ hy)
  parse_text := fun hx => Path.parse_text (h.plain_pathOf? hx)
  isWithin_iff := by
    intro i j place outer path hblock hpage
    obtain ⟨b, hb, rfl⟩ := pathOf?_block hblock
    obtain ⟨d, p, hd, hp, rfl⟩ := pathOf?_page hpage
    exact h.isWithin_page_iff hb hd (List.mem_of_getElem? hp)
  history := h.history_recorded
  history_record := by
    intro i j place outer p hblock hpage hnot store response
    rw [h.history_record hblock hpage, if_neg hnot, List.append_nil]

end BlockTable

namespace Experiment

open BlockTable Violation

variable {s : Script} {o : BuildOptions} {w : Words} {start e : Experiment}

/-- The blocks of an experiment that has been built are labelled. -/
theorem labelled_of_build (hbuild : build s o w = .ok start) : start.table.Labelled := by
  obtain ⟨hrules, numbers, order, w', w'', hbuilt, -⟩ := exists_of_build hbuild
  obtain ⟨hsiblings, hblocks⟩ := List.append_eq_nil_iff.1 hrules
  have hids := (List.append_eq_nil_iff.1 (List.map_eq_nil_iff.1 hsiblings)).1
  have hgrown := grown_of_buildBlocks hblocks hbuilt
  exact {
    sound := hgrown.sound
    block := fun hb => labels_of_buildBlocks hblocks hbuilt _ _ (Nat.zero_le _) hb
    roots := ⟨numbers, siblings_of_buildBlocks hblocks hids hbuilt,
      fun hb hnone => hgrown.mem_iff.2 ⟨_, hb, hnone⟩⟩ }

/-- In an experiment that has been built, paths are addresses of its blocks and pages, and they are
so wherever moves lead from it. -/
theorem addressed_of_reachable (hbuild : build s o w = .ok start) (hreach : Reachable start e) :
    e.table.Addressed := by
  have hstart := (ready_of_build hbuild).sound
  have hsound := hreach.sound hstart
  obtain ⟨seen, h⟩ := hreach
  exact ((labelled_of_build hbuild).of_shapes (h.shapes hstart) hsound.table).addressed

/-- In the training paths are addresses, before it begins and when its first page is shown. -/
theorem training_addressed :
    ∃ start, build training {} (Words.ofSeed 0) = .ok start ∧ start.table.Addressed ∧
      (start.advance ({} : MemoryStore)).2.1.table.Addressed := by
  obtain ⟨start, hbuild⟩ := exists_build_training (Words.ofSeed 0)
  have hfirst : Reachable start start := ⟨[], .start⟩
  have hnext := hfirst.advance (ready_of_build hbuild).sound ({} : MemoryStore)
  exact ⟨start, hbuild, addressed_of_reachable hbuild hfirst, addressed_of_reachable hbuild hnext⟩

end Experiment

end Trials
