import Trials.Number.Binary64
import Trials.Assignment

/-!
# Pools of simulated participants

A `SimulationConfig` describes a pool of simulated participants: how many there are, which
assignments they rotate through, and how they answer.
-/

namespace Trials

/-- A pool of simulated participants. -/
structure SimulationConfig where
  participants : UInt32
  /-- The number of Latin-square versions to rotate through. -/
  versions : UInt32
  /-- The number of permutations to rotate through. -/
  permutations : UInt32
  /-- The seed of the first participant; each further one has the next seed. -/
  seed : UInt64
  /-- The probability of a correct answer. -/
  correctRate : Binary64
  /-- How far apart pages of the same condition are looked for when two would meet. -/
  window : Nat
  /-- The largest number of pages shown to a participant, if there is one. -/
  maxPages : Option Nat
deriving DecidableEq

/-- Why there can be no such pool. -/
inductive PoolFault where
  | noParticipants
  /-- It has no versions or no permutations. -/
  | noRotation
  /-- The rate of correct answers is no probability. -/
  | badRate
deriving DecidableEq

/-- The text of the fault. -/
def PoolFault.message : PoolFault → String
  | noParticipants => "participants must be > 0"
  | noRotation => "versions and permutations must be > 0"
  | badRate => "correct rate must be between 0 and 1"

namespace SimulationConfig

/-- The first fault of the description. -/
def fault? (c : SimulationConfig) : Option PoolFault :=
  if c.participants = 0 then some .noParticipants
  else if c.versions = 0 ∨ c.permutations = 0 then some .noRotation
  else if !c.correctRate.isProbability then some .badRate
  else none

/-- The assignment of the participant with an index. -/
def assignmentFor (c : SimulationConfig) (index : UInt32) : Assignment :=
  { version := index % c.versions, permutation := index % c.permutations }

/-- The seed from which the order of a participant's pages is drawn. -/
def orderSeed (c : SimulationConfig) (index : UInt32) : UInt64 := c.seed + index.toUInt64

/-- The seed from which a participant's answers are drawn: the other one with its halves
exchanged. -/
def answerSeed (c : SimulationConfig) (index : UInt32) : UInt64 :=
  let seed := c.orderSeed index
  (seed <<< 32) ||| (seed >>> 32)

end SimulationConfig

end Trials
