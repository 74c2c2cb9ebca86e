import Trials.Proofs.Experiment.Building

/-!
# Experiments follow the run protocol

Calls of `Experiment.advance` show the same pages as the direct recursion of the run protocol, with
all blocks and the source of random orders in the same state at each page and at the end, and the
store is finalized once, after the last top-level block.
-/

namespace Trials

namespace Experiment

/-- An experiment that has been built ends in one way, and it is the way that the run protocol
says, whatever is answered. -/
theorem completes_iff_interprets {s : Script} {o : BuildOptions} {w : Words} {e : Experiment}
    (hbuild : build s o w = .ok e) {σ : Type} [OutcomeStore σ] (store : σ)
    (responses : Nat → Response) :
    (∃! ending, Performance.Completes responses ⟨e, store, []⟩ ending) ∧
      ∀ ending, Performance.Completes responses ⟨e, store, []⟩ ending ↔
        e.Interprets responses store ending := by
  have hready := ready_of_build hbuild
  obtain ⟨q, hrun, hroot, hq⟩ := Performance.exists_runsAll responses
    (⟨e, store, []⟩ : Performance σ) hready.sound hready.position
  have hcompletes : Performance.Completes responses ⟨e, store, []⟩ q.scene.finalize :=
    hq.completes hroot hready.sound hready.finished
  have hinterprets : e.Interprets responses store q.scene.finalize := by
    have hcursor : e.roots.drop e.cursor = e.roots := by rw [hready.cursor, List.drop_zero]
    rw [hcursor] at hrun
    exact ⟨q.scene, hrun, rfl⟩
  refine ⟨⟨_, hcompletes, fun _ h => h.unique hcompletes⟩, fun ending => ⟨?_, ?_⟩⟩
  · intro h
    rw [h.unique hcompletes]
    exact hinterprets
  · intro h
    rw [h.unique hinterprets]
    exact hcompletes

/-- A training in which every answer is wrong follows the run protocol. -/
theorem training_follows_protocol :
    ∃ e, build training {} (Words.ofSeed 0) = .ok e ∧
      (∃! ending, Performance.Completes (fun _ => .graded false) ⟨e, ({} : MemoryStore), []⟩
        ending) ∧
      ∀ ending, Performance.Completes (fun _ => .graded false) ⟨e, ({} : MemoryStore), []⟩ ending ↔
        e.Interprets (fun _ => .graded false) ({} : MemoryStore) ending := by
  obtain ⟨e, hbuild⟩ := exists_build_training (Words.ofSeed 0)
  exact ⟨e, hbuild, completes_iff_interprets hbuild _ _⟩

end Experiment

end Trials
