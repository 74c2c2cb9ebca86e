import Trials.Proofs.Experiment.Addresses
import Trials.Proofs.Experiment.Declarations
import Trials.Store.SessionRecord
import Trials.Session.Basic

/-!
# Rules watch the page that they name

A rule names a page by its identifier, a block watches a page by its path, and a store finds answers
by the path under which they have been recorded.  All three mean the same page: the path that a
block watches is that of the only declared page with the identifier, and a page with this identifier
is shown with this path and no other (`Watches`).  So in a session the block may run just if the
last answer to this page is one that the rule asks for.
-/

namespace Trials

/-- An answer to the page that a rule names is what the rule asks for. -/
def RunRule.Accepts : RunRule → Response → Prop
  | .selected _ option, r => r.selection = some option
  | .matched _ pattern, r => ∃ text program, r.text = some text ∧
      Program.compile pattern = .ok program ∧ program.search text = true
  | .permutation _, _ => False

/-- The path of the page that a block watches, if it watches one. -/
def RunIf.target? : RunIf → Option Path
  | .selected page _ => some page
  | .matched page _ => some page
  | _ => none

/-! ## Last answers -/

/-- The last response recorded under a path, the records being given oldest first. -/
theorem Record.latest_reverse_eq_some {records : List Record} {path : Path} {r : Response} :
    Record.latest records.reverse path = some r ↔
      ∃ before after, records = before ++ ⟨path, r⟩ :: after ∧ ∀ x ∈ after, x.path ≠ path := by
  rw [Record.latest, Option.map_eq_some_iff]
  constructor
  · rintro ⟨⟨p, r⟩, hfind, rfl⟩
    obtain ⟨hp, newer, older, hsplit, hnewer⟩ := List.find?_eq_some_iff_append.1 hfind
    obtain rfl : p = path := by simpa using hp
    refine ⟨older.reverse, newer.reverse, by simpa using List.reverse_eq_iff.1 hsplit, ?_⟩
    intro x hx
    simpa using hnewer x (List.mem_reverse.1 hx)
  · rintro ⟨before, after, rfl, hafter⟩
    refine ⟨⟨path, r⟩, List.find?_eq_some_iff_append.2 ⟨by simp, after.reverse, before.reverse, ?_⟩,
      rfl⟩
    refine ⟨by simp, fun x hx => ?_⟩
    simpa using hafter x (List.mem_reverse.1 hx)

/-- The last answer to a page with an identifier is a response, pages and their answers being given
oldest first. -/
def LastAnswer (visits : List (Page × Response)) (id : String) (r : Response) : Prop :=
  ∃ before page after, visits = before ++ (page, r) :: after ∧ page.id = id ∧
    ∀ v ∈ after, v.1.id ≠ id

/-- The record of a page that has been answered. -/
def recordOf (visit : Page × Response) : Record := ⟨visit.1.path, visit.2⟩

/-- Where pages with an identifier are those at a path, the last answer is found under the path. -/
theorem latest_iff_lastAnswer {visits : List (Page × Response)} {id : String} {target : Path}
    (hsame : ∀ v ∈ visits, v.1.path = target ↔ v.1.id = id) (r : Response) :
    Record.latest (visits.map recordOf).reverse target = some r ↔ LastAnswer visits id r := by
  rw [Record.latest_reverse_eq_some]
  constructor
  · rintro ⟨before, after, hsplit, hafter⟩
    obtain ⟨before, rest, rfl, rfl, hrest⟩ := List.map_eq_append_iff.1 hsplit
    obtain ⟨⟨page, r⟩, after, rfl, hvisit, rfl⟩ := List.map_eq_cons_iff.1 hrest
    cases hvisit
    refine ⟨before, page, after, rfl, (hsame _ (by simp)).1 rfl, fun v hv hid => ?_⟩
    exact hafter _ (List.mem_map_of_mem hv) ((hsame v (by simp [hv])).2 hid)
  · rintro ⟨before, page, after, rfl, hid, hafter⟩
    have hpath : page.path = target := (hsame (page, r) (by simp)).2 hid
    refine ⟨before.map recordOf, after.map recordOf, by simp [recordOf, hpath], ?_⟩
    refine List.forall_mem_map.2 fun v hv htarget => ?_
    exact hafter v hv ((hsame v (by simp [hv])).1 htarget)

/-! ## Sessions -/

/-- A store whose answers are those of a list of records, newest first. -/
class RecordKeeper (σ : Type) [OutcomeStore σ] where
  newest : σ → List Record
  answers_eq : ∀ store, OutcomeStore.answers store = Record.answers (newest store)
  newest_record : ∀ store path response,
    newest (OutcomeStore.record store path response) = ⟨path, response⟩ :: newest store

instance : RecordKeeper MemoryStore where
  newest := MemoryStore.newest
  answers_eq _ := rfl
  newest_record _ _ _ := rfl

instance : RecordKeeper RecordStore where
  newest s := s.memory.newest
  answers_eq _ := rfl
  newest_record _ _ _ := rfl

/-- Turns lead from a session to another one, each of which shows a page; the pages are given with
the answers to them, oldest first. -/
inductive Session.Leads {σ τ : Type} [OutcomeStore σ] [Participant τ] (cap : Option Nat)
    (first : Session σ τ) : List (Page × Response) → Session σ τ → Prop
  | start : Leads cap first [] first
  | turn {visits : List (Page × Response)} {s s' : Session σ τ} {page : Page}
    (h : Leads cap first visits s) (hshown : (s.experiment.advance s.store).1 = .ok (.shown page))
    (hturn : s.turn cap = .inl s') :
    Leads cap first (visits ++ [(page, (Participant.respond s.participant page).1)]) s'

namespace Experiment

variable {s : Script} {o : BuildOptions} {w : Words} {start e e' : Experiment} {path target : Path}
  {rule : RunRule} {runIf : RunIf} {id : String}

/-! ## What a rule becomes -/

/-- What a rule becomes when the page that it names is found at the path `target`. -/
inductive Resolved (target : Path) : RunRule → RunIf → Prop
  | selected (page option : String) :
    Resolved target (.selected page option) (.selected target option)
  | matched (page : String) {pattern : String} {program : Program}
    (h : Program.compile pattern = .ok program) :
    Resolved target (.matched page pattern) (.matched target program)

theorem resolved_of_blockInfo {head : BlockHead} {info : BlockInfo}
    (h : blockInfo s path head = .ok info) (hrule : head.runIf = some rule)
    (hid : rule.page? = some id) :
    ∃ target, s.resolvePage id = .ok target ∧ Resolved target rule info.runIf := by
  obtain ⟨runIf, hrunIf, h⟩ := exists_of_bind_eq_ok h
  cases h
  have hrunIf := eq_ok_of_mapError_eq_ok hrunIf
  rw [hrule] at hrunIf
  cases rule with
  | permutation values => cases hid
  | selected page option =>
    cases hid
    obtain ⟨target, htarget, h⟩ := exists_of_bind_eq_ok hrunIf
    cases h
    exact ⟨target, htarget, .selected _ option⟩
  | matched page pattern =>
    cases hid
    obtain ⟨target, htarget, h⟩ := exists_of_bind_eq_ok hrunIf
    split at h
    next program hprogram =>
      cases h
      exact ⟨target, htarget, .matched _ hprogram⟩
    · cases h

theorem Resolved.target?_eq (h : Resolved target rule runIf) : runIf.target? = some target := by
  cases h <;> rfl

theorem Resolved.holds_iff (h : Resolved target rule runIf) (newest : List Record)
    (permutation : UInt32) : runIf.holds (Record.answers newest) permutation = true ↔
      ∃ r, Record.latest newest target = some r ∧ rule.Accepts r := by
  cases h with
  | selected => simp [RunIf.holds, Record.answers, RunRule.Accepts, Option.bind_eq_some_iff]
  | matched _ hprogram =>
    cases hlatest : Record.latest newest target with
    | none => simp [RunIf.holds, Record.answers, hlatest]
    | some r =>
      cases htext : r.text with
      | none => simp [RunIf.holds, Record.answers, RunRule.Accepts, hlatest, htext]
      | some text => simp [RunIf.holds, Record.answers, RunRule.Accepts, hlatest, htext, hprogram]

/-! ## Pages that are shown -/

/-- A page that is shown has stood in a block from the beginning. -/
theorem exists_block_of_shown (hstart : start.Sound) (hreach : Reachable start e) {σ : Type}
    [OutcomeStore σ] {store : σ} {page : Page}
    (hshown : (e.advance store).1 = .ok (.shown page)) :
    ∃ (i : Nat) (b : Block), start.table[i]? = some b ∧ page ∈ b.content.shown := by
  obtain ⟨number, place, e', hruns, hcall⟩ := (hreach.sound hstart).runs_of_shown hshown
  have hnext := hreach.advance hstart store
  rw [hcall] at hnext
  obtain ⟨seen, hnext⟩ := hnext
  obtain ⟨b', hb', hpage⟩ := hruns.exists_shown
  obtain ⟨b, hb, hshape⟩ := BlockTable.exists_of_shapes (hnext.shapes hstart).symm hb'
  obtain ⟨-, -, hcontent⟩ := Block.shape_inj.1 hshape
  rw [← hcontent] at hpage
  exact ⟨number, b, hb, List.mem_of_getElem? hpage⟩

/-- A page that stands in a block is one that the script declares at its path. -/
theorem exists_declaresPage_of_build (hbuild : build s o w = .ok start) {i : Nat} {b : Block}
    (hb : start.table[i]? = some b) {page : Page} (hpage : page ∈ b.content.shown) :
    ∃ decl, s.DeclaresPage page.path decl ∧ decl.id = page.id := by
  obtain ⟨d, hd, hstands⟩ := exists_declares_of_build hbuild hb
  obtain ⟨decl, hdecl, rfl⟩ := hstands.pages page hpage
  exact ⟨decl, ⟨b.info.path, d, hd, hdecl, rfl⟩, rfl⟩

theorem exists_declaresPage_of_shown (hbuild : build s o w = .ok start)
    (hreach : Reachable start e) {σ : Type} [OutcomeStore σ] {store : σ} {page : Page}
    (hshown : (e.advance store).1 = .ok (.shown page)) :
    ∃ decl, s.DeclaresPage page.path decl ∧ decl.id = page.id := by
  obtain ⟨i, b, hb, hpage⟩ := exists_block_of_shown (ready_of_build hbuild).sound hreach hshown
  exact exists_declaresPage_of_build hbuild hb hpage

/-! ## What is recorded -/

variable {σ τ : Type} [OutcomeStore σ] [Participant τ] {cap : Option Nat}
  {first current next : Session σ τ} {visits : List (Page × Response)} {page : Page}

theorem turn_of_shown (hsound : current.experiment.Sound)
    (hshown : (current.experiment.advance current.store).1 = .ok (.shown page))
    (hturn : current.turn cap = .inl next) :
    next.experiment = (current.experiment.advance current.store).2.1 ∧
      next.store = OutcomeStore.record current.store page.path
        (Participant.respond current.participant page).1 := by
  obtain ⟨number, place, e', -, hcall⟩ := hsound.runs_of_shown hshown
  unfold Session.turn at hturn
  split at hturn
  · cases hturn
  · rw [hcall] at hturn ⊢
    cases hturn
    exact ⟨rfl, rfl⟩

/-- In a session from an empty store, the store holds the answers to the pages shown, and these are
pages that the script declares. -/
theorem session_leads [RecordKeeper σ] (hbuild : build s o w = .ok start)
    (hfirst : first.experiment = start) (hempty : RecordKeeper.newest first.store = [])
    (h : Session.Leads cap first visits current) :
    Reachable start current.experiment ∧
      RecordKeeper.newest current.store = (visits.map recordOf).reverse ∧
      ∀ v ∈ visits, ∃ decl, s.DeclaresPage v.1.path decl ∧ decl.id = v.1.id := by
  have hstart := (ready_of_build hbuild).sound
  induction h with
  | start => exact ⟨hfirst ▸ ⟨[], .start⟩, hempty, nofun⟩
  | @turn visits current next page _ hshown hturn ih =>
    obtain ⟨hreach, hnewest, hdeclared⟩ := ih
    obtain ⟨hexperiment, hstore⟩ := turn_of_shown (hreach.sound hstart) hshown hturn
    refine ⟨?_, ?_, ?_⟩
    · rw [hexperiment]
      exact hreach.advance hstart current.store
    · rw [hstore, RecordKeeper.newest_record, hnewest]
      simp [recordOf]
    · refine List.forall_mem_append.2 ⟨hdeclared, List.forall_mem_singleton.2 ?_⟩
      exact exists_declaresPage_of_shown hbuild hreach hshown

/-! ## The main result -/

/-- The block at a path watches the page with an identifier, which has the path `target`. -/
structure Watches (start : Experiment) (path : Path) (rule : RunRule) (id : String)
    (target : Path) : Prop where
  /-- The block is there. -/
  block : ∃ (i : Nat) (b : Block), start.table[i]? = some b ∧ b.info.path = path
  /-- Its condition is about the target. -/
  target_eq : ∀ {e : Experiment} {i : Nat} {b : Block}, Reachable start e →
    e.table[i]? = some b → b.info.path = path → b.info.runIf.target? = some target
  /-- A page with the identifier is shown with this path. -/
  shown : ∀ {e : Experiment} {σ : Type} [OutcomeStore σ] {store : σ} {page : Page},
    Reachable start e → (e.advance store).1 = .ok (.shown page) → page.id = id →
    page.path = target
  /-- Between the pages of a session the condition holds just if the page has been shown and the
  last answer to it is what the rule asks for. -/
  holds_iff : ∀ {σ τ : Type} [OutcomeStore σ] [RecordKeeper σ] [Participant τ] {cap : Option Nat}
    {first current : Session σ τ} {visits : List (Page × Response)} {i : Nat} {b : Block},
    first.experiment = start → RecordKeeper.newest first.store = [] →
    Session.Leads cap first visits current → current.experiment.table[i]? = some b →
    b.info.path = path →
    (b.info.runIf.holds (OutcomeStore.answers current.store)
        current.experiment.assignment.permutation = true ↔
      ∃ r, LastAnswer visits id r ∧ rule.Accepts r)

theorem resolved_of_reachable {d : BlockDecl} (hbuild : build s o w = .ok start)
    (hreach : Reachable start e) (hd : s.Declares path d) (hrule : d.runIf = some rule)
    (hid : rule.page? = some id) (htarget : s.resolvePage id = .ok target) {i : Nat} {b : Block}
    (hb : e.table[i]? = some b) (hpath : b.info.path = path) : Resolved target rule b.info.runIf := by
  obtain ⟨seen, hreach⟩ := hreach
  have hshapes := hreach.shapes (ready_of_build hbuild).sound
  obtain ⟨b₀, hb₀, hshape⟩ := BlockTable.exists_of_shapes hshapes.symm hb
  have hinfo := (Block.shape_inj.1 hshape).1
  obtain ⟨d', hd', hstands⟩ := exists_declares_of_build hbuild hb₀
  rw [hinfo, hpath] at hd' hstands
  obtain rfl := Script.eq_of_declares (violations_eq_nil_of_build hbuild).2 hd hd'
  obtain ⟨target', htarget', hresolved⟩ := resolved_of_blockInfo hstands.info hrule hid
  cases htarget.symm.trans htarget'
  rwa [hinfo] at hresolved

/-- In a script that breaks no rule, a rule about a page is a condition on the path of the only
declared page with its identifier, whatever the experiment is built for. -/
theorem watches_named_page {d : BlockDecl} (hrules : s.violations = []) (hd : s.Declares path d)
    (hrule : d.runIf = some rule) (hid : rule.page? = some id) :
    ∃ target, s.DeclaresOnce id target ∧ ∀ {o : BuildOptions} {w : Words} {start : Experiment},
      build s o w = .ok start → Watches start path rule id target := by
  obtain ⟨outer, rfl, hwithin⟩ := hd.within_eq_nil (List.append_eq_nil_iff.1 hrules).2
  obtain ⟨info, hinfo⟩ := exists_blockInfo hwithin
  obtain ⟨target, htarget, -⟩ := resolved_of_blockInfo hinfo hrule hid
  have honce := Script.declaresOnce_of_resolvePage hrules htarget
  obtain ⟨watched, hwatched, hwatchedId⟩ := honce.declared
  refine ⟨target, honce, fun {o w start} hbuild => ?_⟩
  constructor
  case block =>
    obtain ⟨i, b, hb, hpath, -⟩ := exists_block_of_build hbuild hd
    exact ⟨i, b, hb, hpath⟩
  case target_eq =>
    intro e i b hreach hb hpath
    exact (resolved_of_reachable hbuild hreach hd hrule hid htarget hb hpath).target?_eq
  case shown =>
    intro e σ _ store page hreach hshown hpage
    obtain ⟨decl, hdecl, hdeclId⟩ := exists_declaresPage_of_shown hbuild hreach hshown
    exact (honce.unique hdecl (hdeclId.trans hpage) hwatched hwatchedId).1
  case holds_iff =>
    intro σ τ _ _ _ cap first current visits i b hfirst hempty hleads hb hpath
    obtain ⟨hreach, hnewest, hdeclared⟩ := session_leads hbuild hfirst hempty hleads
    have hresolved := resolved_of_reachable hbuild hreach hd hrule hid htarget hb hpath
    rw [RecordKeeper.answers_eq, hnewest, hresolved.holds_iff]
    -- Among the pages shown those with the identifier are those at the target.
    have hsame : ∀ v ∈ visits, v.1.path = target ↔ v.1.id = id := by
      intro v hv
      obtain ⟨decl, hdecl, hdeclId⟩ := hdeclared v hv
      constructor
      · intro htargetPath
        rw [htargetPath] at hdecl
        rw [← hdeclId, hdecl.unique hwatched hrules, hwatchedId]
      · intro hvisitId
        exact (honce.unique hdecl (hdeclId.trans hvisitId) hwatched hwatchedId).1
    simp only [latest_iff_lastAnswer hsame]

/-- A question, and a block that runs if it has been answered with `yes`. -/
def survey : Script where
  blocks := [
    { id := "ask", pages := some [{ id := "q" }] },
    { id := "more", runIf := some (.selected "q" "yes"), pages := some [{ id := "r" }] }]

/-- Someone who chooses the same option on every page. -/
structure Chooser where
  option : String

instance : Participant Chooser := ⟨fun c _ => ({ selection := some c.option }, c)⟩

/-- In the survey the second block watches the question, and may run after it has been answered. -/
theorem survey_watches_question :
    survey.violations = [] ∧ ∃ start, build survey {} (Words.ofSeed 0) = .ok start ∧
      Watches start ⟨["more"]⟩ (.selected "q" "yes") "q" ⟨["ask", "q"]⟩ ∧
      ∃ page current b, Session.Leads none (⟨start, {}, ⟨"yes"⟩, []⟩ : Session MemoryStore Chooser)
          [(page, { selection := some "yes" })] current ∧
        current.experiment.table[1]? = some b ∧ b.info.path = ⟨["more"]⟩ ∧
        b.info.runIf.holds (OutcomeStore.answers current.store)
          current.experiment.assignment.permutation = true := by
  have hrules : survey.violations = [] := rfl
  have hmore : survey.Declares ⟨["more"]⟩
      { id := "more", runIf := some (.selected "q" "yes"), pages := some [{ id := "r" }] } :=
    .here (List.mem_cons_of_mem _ List.mem_cons_self)
  have hask : survey.DeclaresPage ⟨["ask", "q"]⟩ { id := "q" } :=
    ⟨⟨["ask"]⟩, _, .here List.mem_cons_self, List.mem_cons_self, rfl⟩
  obtain ⟨target, honce, hwatches⟩ := watches_named_page hrules hmore rfl rfl
  obtain ⟨page, hpage, hid⟩ := honce.declared
  obtain ⟨rfl, -⟩ := honce.unique hask rfl hpage hid
  obtain ⟨start, e, q, b, hbuild, hends, hq, hb, hpath⟩ :
      ∃ start e q b, build survey {} (Words.ofSeed 0) = .ok start ∧
        Course.Ends (onward (OutcomeStore.answers ({} : MemoryStore))) start (.shown 0 0 q, e) ∧
        q.id = "q" ∧ e.table[1]? = some b ∧ b.info.path = ⟨["more"]⟩ :=
    ⟨_, _, _, _, rfl, .next rfl (.stop rfl), rfl, rfl, rfl⟩
  have hcall := advance_eq_of_ends_shown hends (ready_of_build hbuild).finished
  let first : Session MemoryStore Chooser := ⟨start, {}, ⟨"yes"⟩, []⟩
  have hturn : first.turn none = .inl ({ first with experiment := e }.answer q) := by
    simp only [Session.turn, Option.filter_none, first, hcall]
  have hleads : Session.Leads none first [(q, { selection := some "yes" })]
      ({ first with experiment := e }.answer q) :=
    .turn .start (congrArg Prod.fst hcall) hturn
  have hstart := hwatches hbuild
  refine ⟨hrules, start, hbuild, hstart, q, _, b, hleads, hb, hpath, ?_⟩
  exact (hstart.holds_iff rfl rfl hleads hb hpath).2 ⟨_, ⟨[], q, [], rfl, hq, nofun⟩, rfl⟩

end Experiment

end Trials
