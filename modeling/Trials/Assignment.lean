/-!
# Assignments

What sets one participant apart from another before any randomness: the version of the Latin
squares and the permutation of the counterbalanced blocks.
-/

namespace Trials

/-- The variants that a participant is assigned to. -/
structure Assignment where
  /-- The version of the Latin squares: it rotates which page of each group is taken. -/
  version : UInt32 := 0
  /-- The permutation of counterbalanced blocks, which some run-if rules also ask for. -/
  permutation : UInt32 := 0
deriving DecidableEq, Inhabited

end Trials
