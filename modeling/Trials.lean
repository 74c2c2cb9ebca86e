import Trials.Main
import Trials.Script.Encode
import Trials.Proofs.Experiment.Conformance
import Trials.Proofs.Experiment.Passes
import Trials.Proofs.Experiment.Calls
import Trials.Proofs.Experiment.Structure
import Trials.Proofs.Experiment.Fresh
import Trials.Proofs.Experiment.Separation
import Trials.Proofs.Experiment.LatinSquare
import Trials.Proofs.Experiment.Finalization
import Trials.Proofs.Experiment.Addresses
import Trials.Proofs.Store.SessionRecord
import Trials.Proofs.Script.Encoding
import Trials.Proofs.Script.Reading
import Trials.Proofs.Script.Pages
import Trials.Proofs.Experiment.Declarations
import Trials.Proofs.Experiment.Watching
import Trials.Proofs.Experiment.Gates
import Trials.Proofs.Experiment.Plan
import Trials.Proofs.Experiment.PlannedRun
import Trials.Proofs.Session.PageCap
import Trials.Proofs.Experiment.Assignment
import Trials.Proofs.Simulation.Balance
import Trials.Proofs.Simulation.Conservation
import Trials.Proofs.Simulation.Parts
import Trials.Proofs.Simulation.Saved
import Trials.Proofs.Simulation.Seeds
import Trials.Proofs.Experiment.Counter
import Trials.Proofs.Order.Exhaustion
import Trials.Proofs.Order.Repair
import Trials.Proofs.Number.Rounding
import Trials.Proofs.Number.Binary64
import Trials.Proofs.Looping
import Trials.Proofs.Store.FailedFinalization
import Trials.Proofs.Script.Reporting
import Trials.Proofs.Experiment.AlignedGroups
import Trials.Proofs.Store.BareOutcome
import Trials.Proofs.Settings
