import Trials.Command.Pool
import Trials.Proofs.Files.Writing
import Trials.Proofs.Script.Encoding
import Trials.Proofs.Simulation.Conservation
import Trials.Proofs.Simulation.Written

/-!
# Saved simulations

What a simulation comes to has numbers of 64 bits and tables in order
(`Simulation.representable_summary`), and a result that has been saved is in the file whose name is
told (`SimulationResult.read_of_save`).  So the report on the file that a run has saved repeats the
lines that the run has printed (`Pool.saved_summary_reported`).  What these lines say of the pool is
in `lines_of_simulate`.
-/

namespace Trials

open Json

/-! ## Files -/

namespace SimulationResult

variable {r : SimulationResult}

variable {disk saved : Disk} {directory name : String} {started finished : Instant}

/-- A saved result is in the file whose name is told. -/
theorem read_of_save (hdisk : disk.Grounded)
    (h : r.save disk directory started = (.ok name, saved)) : saved.read name = .ok r.text := by
  unfold save at h
  split at h
  next => cases h
  next hmade =>
    dsimp only at h
    split at h
    next => cases h
    next hwrite =>
      cases h
      exact Disk.read_of_write ((Disk.extends_makeDirectories hmade).grounded hdisk) hwrite

/-- The report on a saved result consists of one line on the run and the lines of the summary. -/
theorem exists_runReport (h : r.Representable) (hdisk : disk.Grounded)
    (hsave : r.save disk directory started = (.ok name, saved)) :
    ∃ duration : Number, Pool.runReport saved name =
      { out := Output.unlines { r with duration := duration.toBinary64 }.lines
        disk := saved } := by
  obtain ⟨rate, duration, hparse⟩ := exists_parse?_text h
  refine ⟨duration, ?_⟩
  rw [Pool.runReport, read, read_of_save hdisk hsave]
  dsimp only
  rw [hparse]
  rfl

/-- The result of a run that takes less than four million years. -/
theorem representable_ofRun {script : String} {config : SimulationConfig}
    {summary : SimulationSummary} (hconfig : config.Representable)
    (hrate : config.correctRate.isProbability = true)
    (htime : (finished.milliseconds - started.milliseconds).natAbs ≤ 2 ^ 57)
    (hsummary : summary.Representable) :
    (ofRun script config started finished summary).Representable := by
  obtain ⟨hfinite, hunits⟩ := Binary64.div_ofNat_thousand htime
  refine ⟨hconfig, hrate, hfinite, hunits.trans_lt ?_, hsummary⟩
  exact Nat.mul_lt_mul_of_pos_right (by decide) Binary64.unitsPerOne_pos

end SimulationResult

/-! ## Simulations -/

namespace Simulation

open SimulationSummary

variable {s : Script} {c : SimulationConfig} {sim : Simulation}

/-- What is counted of all participants of a pool can be saved, unless there are more pages or
blocks than can be counted with 64 bits. -/
theorem representable_ofSeen {seen : List Seen} (hseen : seenByAll s c = some seen)
    (hpos : c.participants ≠ 0) (hpages : (ofSeen seen).pagesShown < UInt64.size)
    (hblocks : s.blocks.length ≤ UInt64.size) : (ofSeen seen).Representable := by
  have haccounts := accountsFor_of_seenByAll hseen hpos
  have hlength := length_of_seenByAll hseen
  have hparticipants : c.participants.toNat < UInt64.size := Document.toNat_lt_size _
  have hslots : (ofSeen seen).slots.Sorted := (Table.counted_tabulate _).toSorted
  have hfirst : (ofSeen seen).firstPages.Sorted := (Table.counted_tabulate _).toSorted
  have hslot {e : Nat × Table String Nat} (he : e ∈ (ofSeen seen).slots) :
      e.1 < s.blocks.length := by
    have hkey : e.1 ∈ (ofSeen seen).slots.keys := List.mem_map_of_mem he
    rwa [haccounts.slots_eq, List.mem_range] at hkey
  refine ⟨?_, ?_, hpages, hslots, ?_, ?_, hfirst, ?_⟩
  · rwa [haccounts.participants_eq]
  · exact haccounts.completed_le.trans_lt hparticipants
  · exact fun e he => (hslot he).trans_le hblocks
  · intro e he n hn
    have htotal := haccounts.slot_total e.1 (hslot he)
    rw [hslots.outer.row_eq_of_mem he] at htotal
    exact ((Table.le_total_of_mem hn).trans htotal.le).trans_lt hparticipants
  · intro e he n hn
    obtain ⟨path, d, hd, htext⟩ := haccounts.first_keys e.1 (List.mem_map_of_mem he)
    have htotal := (haccounts.first_total path d hd).le.trans List.countP_le_length
    rw [htext, hfirst.outer.row_eq_of_mem he, hlength] at htotal
    exact ((Table.le_total_of_mem hn).trans htotal).trans_lt hparticipants

/-- What a simulation comes to can be saved. -/
theorem representable_summary (hsim : simulate s c = .ok sim)
    (hpages : sim.summary.pagesShown < UInt64.size) (hblocks : s.blocks.length ≤ UInt64.size) :
    sim.summary.Representable := by
  obtain ⟨seen, hseen, hsummary⟩ := exists_seen_of_simulate hsim
  rw [hsummary] at hpages ⊢
  exact representable_ofSeen hseen (participants_ne_zero_of_simulate hsim) hpages hblocks

end Simulation

namespace Pool

/-- A run that succeeds has saved its result and has printed the lines of the summary. -/
theorem exists_save_of_runSimulation {disk : Disk} {started finished : Instant}
    {script directory : String} {config : SimulationConfig} {loaded : Script}
    {simulation : Simulation} (hload : Script.load disk script = .ok loaded)
    (hsim : simulate loaded config = .ok simulation)
    (hcode : (runSimulation disk started finished script config (some directory)).code = 0) :
    ∃ name saved, (SimulationResult.ofRun script config started finished
        simulation.summary).save disk directory started = (.ok name, saved) ∧
      runSimulation disk started finished script config (some directory) =
        { out := Output.unlines simulation.summary.lines ++ "run: results=" ++ name ++ "\n"
          disk := saved } := by
  unfold runSimulation at hcode ⊢
  rw [hload] at hcode ⊢
  dsimp only at hcode ⊢
  rw [hsim] at hcode ⊢
  dsimp only at hcode ⊢
  split at hcode
  next name saved hsave =>
    rw [hsave]
    exact ⟨name, saved, rfl, rfl⟩
  next => cases hcode

/-- A summary is read back unchanged from its text.  So a report on the file that a run has saved
repeats the lines that the run has printed, after one line on the run itself.  All numbers of the
run have 64 bits, and it takes less than four million years. -/
theorem saved_summary_reported :
    (∀ summary : SimulationSummary, summary.Representable →
      (parseAs? SimulationSummary.shape summary.toJson.pretty).bind SimulationSummary.ofJson? =
        some summary) ∧
    ∀ (disk : Disk) (started finished : Instant) (script directory : String)
      (config : SimulationConfig) (loaded : Script) (simulation : Simulation),
      disk.Grounded → config.Representable →
      (finished.milliseconds - started.milliseconds).natAbs ≤ 2 ^ 57 →
      Script.load disk script = .ok loaded → loaded.blocks.length ≤ UInt64.size →
      simulate loaded config = .ok simulation → simulation.summary.pagesShown < UInt64.size →
      ∀ run, runSimulation disk started finished script config (some directory) = run →
        run.code = 0 → ∃ name header,
          run.out = Output.unlines simulation.summary.lines ++ "run: results=" ++ name ++ "\n" ∧
          runReport run.disk name =
            { out := Output.unlines (header :: simulation.summary.lines), disk := run.disk } := by
  refine ⟨fun summary h => SimulationSummary.read_pretty h, ?_⟩
  rintro disk started finished script directory config loaded simulation hdisk hconfig htime hload
    hblocks hsim hpages run rfl hcode
  obtain ⟨-, -, -, hrate⟩ :=
    SimulationConfig.fault?_eq_none_iff.1 (Simulation.fault?_of_simulate hsim)
  have hsummary := Simulation.representable_summary hsim hpages hblocks
  have hresult : (SimulationResult.ofRun script config started finished
      simulation.summary).Representable :=
    SimulationResult.representable_ofRun hconfig hrate htime hsummary
  obtain ⟨name, saved, hsave, hrun⟩ := exists_save_of_runSimulation hload hsim hcode
  obtain ⟨duration, hreport⟩ := SimulationResult.exists_runReport hresult hdisk hsave
  rw [hrun]
  exact ⟨name, _, rfl, hreport⟩

/-- Tallies with a slot of two digits, with letters outside of ASCII, with the largest number of 64
bits and with empty tables. -/
def broadSummary : SimulationSummary where
  participants := 3
  slots := [(2, [("é/𝄞", 1)]), (10, []), (11, [("a\"\\", 18446744073709551615)])]
  firstPages := [("", []), ("é", [("p", 2), ("ü", 1)])]

theorem representable_broadSummary : broadSummary.Representable where
  participants := by decide
  completed := by decide
  pagesShown := by decide
  slots := ⟨by unfold Table.Ascending; decide, by unfold Table.Ascending; decide⟩
  slot_lt := by decide
  slotCount_lt := by decide
  firstPages := ⟨by unfold Table.Ascending; decide, by unfold Table.Ascending; decide⟩
  firstCount_lt := by decide

/-- A script of one block with one page. -/
def singleText : String :=
  "\x7b\"blocks\":[\x7b\"id\":\"a\",\"pages\":[\x7b\"id\":\"p\"\x7d]\x7d]\x7d"

/-- A disk with this script. -/
def singleDisk : Disk where
  root := .dir [("pool.json", .file singleText)]
  here := []

/-- The small pool, each of whose participants sees at most a hundred pages. -/
def cappedPool : SimulationConfig := { smallPool with maxPages := some 100 }

theorem exists_load_singleDisk : ∃ s head, Script.load singleDisk "pool.json" = .ok s ∧
    s.violations = [] ∧ s.blocks = [{ toBlockHead := head }] ∧ head.pseudorandom = false := by
  have hread : ((Script.parse singleText).toOption.map fun s =>
      s.blocks.map fun b => (b.blocks.isSome, b.pseudorandom)) = some [(false, false)] := by
    decide +kernel
  obtain ⟨s, hs, hblocks⟩ := Option.map_eq_some_iff.1 hread
  have hs := eq_ok_of_toOption_eq_some hs
  obtain ⟨⟨head, inside⟩, hsingle, hplain⟩ := List.map_eq_singleton_iff.1 hblocks
  obtain ⟨hinside, hplain⟩ := Prod.mk.inj hplain
  obtain rfl := Option.not_isSome_iff_eq_none.1 (Bool.eq_false_iff.1 hinside)
  refine ⟨s, head, ?_, (Script.restored_of_parse hs).2.2, hsingle, hplain⟩
  have hload : Script.load singleDisk "pool.json" =
      (Script.parse singleText).mapError (.text "pool.json") := rfl
  rw [hload, hs]
  rfl

/-- The summary with the broad range is read back, and so is that of a run on the script of one
block. -/
theorem single_summary_reported :
    (parseAs? SimulationSummary.shape broadSummary.toJson.pretty).bind SimulationSummary.ofJson? =
      some broadSummary ∧
    ∃ loaded simulation, Script.load singleDisk "pool.json" = .ok loaded ∧
      simulate loaded cappedPool = .ok simulation ∧ ∃ run,
        runSimulation singleDisk ⟨0⟩ ⟨1500⟩ "pool.json" cappedPool (some "results") = run ∧
        run.code = 0 ∧ ∃ name header,
          run.out = Output.unlines simulation.summary.lines ++ "run: results=" ++ name ++ "\n" ∧
          runReport run.disk name =
            { out := Output.unlines (header :: simulation.summary.lines), disk := run.disk } := by
  obtain ⟨hread, hreport⟩ := saved_summary_reported
  obtain ⟨s, head, hload, hrules, hblocks, hplain⟩ := exists_load_singleDisk
  obtain ⟨simulation, hsim⟩ : ∃ simulation, simulate s cappedPool = .ok simulation := by
    refine Simulation.exists_simulate hrules rfl (by decide) fun path d hd => ?_
    rw [Script.Declares, hblocks] at hd
    rw [(Declares.leaf_iff.1 hd).2, hplain]
  have hpages : simulation.summary.pagesShown ≤ 400 := by
    obtain ⟨seen, hseen, hsummary⟩ := Simulation.exists_seen_of_simulate hsim
    rw [hsummary]
    exact (accountsFor_of_seenByAll hseen (by decide)).pagesShown_le 100 rfl
  have hcode : (runSimulation singleDisk ⟨0⟩ ⟨1500⟩ "pool.json" cappedPool
      (some "results")).code = 0 := by
    rw [runSimulation, hload]
    dsimp only
    rw [hsim]
    rfl
  refine ⟨hread _ representable_broadSummary, s, simulation, hload, hsim, _, rfl, hcode, ?_⟩
  refine hreport singleDisk ⟨0⟩ ⟨1500⟩ "pool.json" "results" cappedPool s simulation ⟨_, rfl⟩
    ⟨by decide, ?_⟩ (by decide) hload ?_ hsim ?_ _ rfl hcode
  · rintro pages ⟨⟩
    decide
  · rw [hblocks, List.length_singleton]
    decide
  · exact hpages.trans_lt (by decide)

end Pool

end Trials
